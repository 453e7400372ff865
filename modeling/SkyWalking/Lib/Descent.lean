import Mathlib.Data.Set.Finite.Basic
import Mathlib.Logic.Relation
import Mathlib.Order.WellFoundedSet

/-!
# Relations that lead downwards

A graph whose edges lower a rank has no cycle, and every path in it ends. A graph that grows keeps a rank
as long as new edges start at a node that no edge leads to.

A tree whose nodes are numbered may name the parent of a node by its number.
-/

variable {α : Type*}

/-- Some bounded rank is lowered along every edge. -/
def Ranked (E : α → α → Prop) : Prop :=
  ∃ (rank : α → Nat) (bound : Nat), (∀ a, rank a ≤ bound) ∧ ∀ a b, E a b → rank b < rank a

namespace Ranked

variable {E E' : α → α → Prop}

theorem of_empty (h : ∀ a b, ¬ E a b) : Ranked E :=
  ⟨fun _ => 0, 0, fun _ => le_refl _, fun a b hab => (h a b hab).elim⟩

theorem mono (h : Ranked E) (hle : ∀ a b, E' a b → E a b) : Ranked E' := by
  obtain ⟨rank, bound, hbound, hrank⟩ := h
  exact ⟨rank, bound, hbound, fun a b hab => hrank a b (hle a b hab)⟩

/-- New edges start at a node that no edge leads to: it goes to the top. -/
theorem raise (h : Ranked E) (x : α) (hnew : ∀ a b, E' a b → E a b ∨ a = x)
    (hsource : ∀ a, ¬ E' a x) : Ranked E' := by
  classical
  obtain ⟨rank, bound, hbound, hrank⟩ := h
  refine ⟨Function.update rank x (bound + 1), bound + 1, ?_, ?_⟩
  · intro a
    by_cases ha : a = x
    · rw [ha, Function.update_self]
    · rw [Function.update_of_ne ha]
      exact (hbound a).trans (Nat.le_succ bound)
  · intro a b hab
    have hb : b ≠ x := by
      rintro rfl
      exact hsource a hab
    rw [Function.update_of_ne hb]
    by_cases ha : a = x
    · rw [ha, Function.update_self]
      exact Nat.lt_succ_of_le (hbound b)
    · rw [Function.update_of_ne ha]
      obtain hold | heq := hnew a b hab
      · exact hrank a b hold
      · exact absurd heq ha

theorem lt_of_transGen {rank : α → Nat} (hrank : ∀ a b, E a b → rank b < rank a) {a b : α}
    (h : Relation.TransGen E a b) : rank b < rank a := by
  induction h with
  | single hab => exact hrank _ _ hab
  | tail _ hbc ih => exact (hrank _ _ hbc).trans ih

theorem not_transGen (h : Ranked E) (a : α) : ¬ Relation.TransGen E a a := by
  obtain ⟨rank, -, -, hrank⟩ := h
  exact fun hcycle => lt_irrefl _ (lt_of_transGen hrank hcycle)

/-- Whoever follows the edges comes to a node that none starts from. -/
theorem exists_end (h : Ranked E) (a : α) : ∃ b, Relation.ReflTransGen E a b ∧ ∀ c, ¬ E b c := by
  obtain ⟨rank, -, -, hrank⟩ := h
  induction hn : rank a using Nat.strong_induction_on generalizing a with
  | _ n ih =>
      by_cases hedge : ∃ c, E a c
      · obtain ⟨c, hac⟩ := hedge
        have hlt := hrank a c hac
        rw [hn] at hlt
        obtain ⟨b, hpath, hend⟩ := ih (rank c) hlt c rfl
        exact ⟨b, .head hac hpath, hend⟩
      · exact ⟨a, .refl, fun c hac => hedge ⟨c, hac⟩⟩

end Ranked

section Tree

variable {ι : Type*} {nodes : Set α} {number : α → ι} {parent : α → Option ι}

/-- `a` names the number of `b` as that of its parent. -/
def ChildOf (nodes : Set α) (number : α → ι) (parent : α → Option ι) (a b : α) : Prop :=
  a ∈ nodes ∧ b ∈ nodes ∧ parent a = some (number b)

/-- No number is used twice, parents are there and have smaller numbers, and at most one node names no
parent. -/
structure NumberedTree [LT ι] (nodes : Set α) (number : α → ι) (parent : α → Option ι) : Prop where
  injOn : Set.InjOn number nodes
  parent_mem : ∀ a ∈ nodes, ∀ i, parent a = some i → ∃ b ∈ nodes, number b = i ∧ i < number a
  root_unique : ∀ a ∈ nodes, ∀ b ∈ nodes, parent a = none → parent b = none → a = b

namespace NumberedTree

/-- Smaller and smaller numbers lead to a node without a parent. -/
theorem reaches_root [Preorder ι] (h : NumberedTree nodes number parent) (hfinite : nodes.Finite) {a : α}
    (ha : a ∈ nodes) :
    ∃ r ∈ nodes, parent r = none ∧ Relation.ReflTransGen (ChildOf nodes number parent) a r := by
  have hstrict : IsStrictOrder α fun a b => number a < number b :=
    { irrefl := fun a => lt_irrefl (number a)
      trans := fun _ _ _ => lt_trans }
  have hfounded : nodes.WellFoundedOn fun a b => number a < number b := hfinite.wellFoundedOn
  apply hfounded.induction ha
  intro a ha ih
  cases hparent : parent a with
  | none => exact ⟨a, ha, hparent, .refl⟩
  | some i =>
      obtain ⟨b, hb, rfl, hlt⟩ := h.parent_mem a ha i hparent
      obtain ⟨r, hr, hroot, hpath⟩ := ih b hb hlt
      exact ⟨r, hr, hroot, .head ⟨ha, hb, hparent⟩ hpath⟩

/-- All nodes hang on one root. -/
theorem exists_root [Preorder ι] (h : NumberedTree nodes number parent) (hfinite : nodes.Finite)
    (hne : nodes.Nonempty) :
    ∃ r ∈ nodes, parent r = none ∧
      ∀ a ∈ nodes, Relation.ReflTransGen (ChildOf nodes number parent) a r := by
  obtain ⟨a, ha⟩ := hne
  obtain ⟨r, hr, hroot, -⟩ := h.reaches_root hfinite ha
  refine ⟨r, hr, hroot, fun b hb => ?_⟩
  obtain ⟨r', hr', hroot', hpath⟩ := h.reaches_root hfinite hb
  rw [h.root_unique r hr r' hr' hroot hroot']
  exact hpath

end NumberedTree

end Tree
