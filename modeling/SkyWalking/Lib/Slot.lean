import Mathlib

/-!
# Lists of slots

A list one of whose entries is replaced or removed, up to the order of its entries: what is added up or
joined over the list changes by that entry only.
-/

namespace Slot

variable {α β : Type} {l : List α} {index : Nat} {a : α}

theorem perm_cons (h : l[index]? = some a) : l.Perm (a :: l.eraseIdx index) := by
  obtain ⟨hlt, rfl⟩ := List.getElem?_eq_some_iff.mp h
  exact (List.getElem_cons_eraseIdx_perm hlt).symm

theorem set_perm_cons (h : l[index]? = some a) (b : α) :
    (l.set index b).Perm (b :: l.eraseIdx index) :=
  List.set_perm_cons_eraseIdx (List.getElem?_eq_some_iff.mp h).1 b

theorem sum_map_eq (h : l[index]? = some a) (f : α → Nat) :
    (l.map f).sum = f a + ((l.eraseIdx index).map f).sum := by
  rw [((perm_cons h).map f).sum_eq, List.map_cons, List.sum_cons]

/-- Replacing `a` by `b` changes the sum by the difference of the two. -/
theorem sum_map_set (h : l[index]? = some a) (b : α) (f : α → Nat) :
    ((l.set index b).map f).sum + f a = (l.map f).sum + f b := by
  rw [sum_map_eq h, ((set_perm_cons h b).map f).sum_eq, List.map_cons, List.sum_cons]
  omega

theorem countP_cons_toNat (p : α → Bool) (a : α) (l : List α) :
    (a :: l).countP p = l.countP p + (p a).toNat := by
  rw [List.countP_cons]
  cases p a <;> rfl

/-- Replacing `a` by `b` changes a count by the difference of the two. -/
theorem countP_set (h : l[index]? = some a) (b : α) (p : α → Bool) :
    (l.set index b).countP p + (p a).toNat = l.countP p + (p b).toNat := by
  rw [(perm_cons h).countP_eq p, (set_perm_cons h b).countP_eq p, countP_cons_toNat,
    countP_cons_toNat]
  omega

/-- Joined over the list, what `b` has takes the place of what `a` had. -/
theorem flatMap_set_perm (h : l[index]? = some a) (b : α) (f : α → List β) :
    ((l.set index b).flatMap f ++ f a).Perm (l.flatMap f ++ f b) := by
  calc
    ((l.set index b).flatMap f ++ f a).Perm ((f b ++ (l.eraseIdx index).flatMap f) ++ f a) := by
      apply List.Perm.append_right
      rw [← List.flatMap_cons]
      exact (set_perm_cons h b).flatMap_right f
    List.Perm _ ((f a ++ (l.eraseIdx index).flatMap f) ++ f b) := by
      rw [List.append_assoc, List.append_assoc]
      refine List.perm_append_comm.trans ?_
      rw [List.append_assoc]
      exact (List.perm_append_comm_assoc _ _ _)
    List.Perm _ (l.flatMap f ++ f b) := by
      apply List.Perm.append_right
      rw [← List.flatMap_cons]
      exact ((perm_cons h).flatMap_right f).symm

theorem flatMap_set (h : l[index]? = some a) {b : α} {f : α → List β} (hsame : f b = f a) :
    ((l.set index b).flatMap f).Perm (l.flatMap f) := by
  have hperm := flatMap_set_perm h b f
  rw [hsame] at hperm
  exact (List.perm_append_right_iff (f a)).mp hperm

theorem flatMap_set_append (h : l[index]? = some a) {b : α} {f : α → List β} {x : β}
    (hmore : f b = f a ++ [x]) : ((l.set index b).flatMap f).Perm (l.flatMap f ++ [x]) := by
  apply (List.perm_append_right_iff (f a)).mp
  calc
    ((l.set index b).flatMap f ++ f a).Perm (l.flatMap f ++ f b) := flatMap_set_perm h b f
    List.Perm _ ((l.flatMap f ++ [x]) ++ f a) := by
      rw [hmore, List.append_assoc]
      exact List.perm_append_comm.append_left _

theorem forall_mem_set {P : α → Prop} (hall : ∀ x ∈ l, P x) {b : α} (hb : P b) :
    ∀ x ∈ l.set index b, P x := by
  intro x hx
  obtain hx | rfl := List.mem_or_eq_of_mem_set hx
  · exact hall x hx
  · exact hb

end Slot
