import Mathlib.Data.List.DropRight

/-!
# Sliding windows

A deque of bounded length keeps the last entries that were appended to it.
-/

namespace Window

variable {α : Type}

/-- Append to a deque of length at most `size`, which drops from the other end. -/
def push (size : Nat) (window : List α) (entry : α) : List α := (window ++ [entry]).rtake size

/-- Equal entries are more than `size` places apart. -/
def Spaced (size : Nat) (entries : List α) : Prop :=
  ∀ first second entry, first < second → entries[first]? = some entry →
    entries[second]? = some entry → size < second - first

theorem push_rtake (size : Nat) (entries : List α) (entry : α) :
    push size (entries.rtake size) entry = (entries ++ [entry]).rtake size := by
  unfold push
  cases size with
  | zero => simp
  | succ size =>
      rw [List.rtake_concat_succ, List.rtake_concat_succ]
      congr 1
      simp only [List.rtake_eq_reverse_take_reverse, List.reverse_reverse, List.take_take]
      congr 2
      omega

theorem mem_rtake_of_getElem? {size : Nat} {entries : List α} {index : Nat} {entry : α}
    (hentry : entries[index]? = some entry) (hlate : entries.length - index ≤ size) :
    entry ∈ entries.rtake size := by
  rw [List.rtake, List.mem_drop_iff_getElem]
  obtain ⟨hlt, hget⟩ := List.getElem?_eq_some_iff.mp hentry
  refine ⟨index - (entries.length - size), by omega, ?_⟩
  rw [← hget]
  congr 1
  omega

theorem Spaced.nil (size : Nat) : Spaced size ([] : List α) := by
  intro first second entry _ hfirst _
  simp at hfirst

/-- An entry that is not in the window keeps the entries apart. -/
theorem Spaced.append {size : Nat} {entries : List α} (hspaced : Spaced size entries) {entry : α}
    (hnew : entry ∉ entries.rtake size) : Spaced size (entries ++ [entry]) := by
  intro first second other hlt hfirst hsecond
  have hbound := (List.getElem?_eq_some_iff.mp hsecond).1
  rw [List.length_append, List.length_singleton] at hbound
  rw [List.getElem?_append_left (by omega)] at hfirst
  by_cases hold : second < entries.length
  · rw [List.getElem?_append_left hold] at hsecond
    exact hspaced first second other hlt hfirst hsecond
  · have hlast : second = entries.length := by omega
    subst hlast
    obtain rfl : entry = other := by simpa using hsecond
    by_contra hclose
    exact hnew (mem_rtake_of_getElem? hfirst (by omega))

section Recurs

variable {p : α → Prop} {size gap : Nat} {entries : List α} {entry : α}

/-- Any `size` consecutive entries have one that satisfies `p`. -/
def Recurs (size : Nat) (p : α → Prop) (entries : List α) : Prop :=
  ∀ before window after, entries = before ++ window ++ after → window.length = size →
    ∃ entry ∈ window, p entry

/-- At most the last `gap` entries do not satisfy `p`. -/
def GapAtMost (gap : Nat) (p : α → Prop) (entries : List α) : Prop :=
  ∀ before recent, entries = before ++ recent → (∀ entry ∈ recent, ¬ p entry) →
    recent.length ≤ gap

theorem GapAtMost.nil (gap : Nat) (p : α → Prop) : GapAtMost gap p [] := by
  intro before recent hempty _
  have hlength := congrArg List.length hempty
  rw [List.length_append, List.length_nil] at hlength
  omega

/-- An entry that satisfies `p` ends the gap. -/
theorem GapAtMost.append_of_pos (hentry : p entry) : GapAtMost 0 p (entries ++ [entry]) := by
  intro before recent hsplit hnone
  obtain rfl | ⟨front, last, rfl⟩ := recent.eq_nil_or_concat'
  · exact Nat.le_refl 0
  · rw [← List.append_assoc] at hsplit
    have hlast := (List.append_inj' hsplit rfl).2
    obtain rfl : entry = last := by simpa using hlast
    exact absurd hentry (hnone entry (by simp))

theorem GapAtMost.append (h : GapAtMost gap p entries) (entry : α) :
    GapAtMost (gap + 1) p (entries ++ [entry]) := by
  intro before recent hsplit hnone
  obtain rfl | ⟨front, last, rfl⟩ := recent.eq_nil_or_concat'
  · exact Nat.zero_le _
  · rw [← List.append_assoc] at hsplit
    have hfront := h before front (List.append_inj' hsplit rfl).1 fun other hother =>
      hnone other (List.mem_append_left _ hother)
    rw [List.length_append, List.length_singleton]
    omega

theorem Recurs.nil (hsize : 0 < size) (p : α → Prop) : Recurs size p [] := by
  intro before window after hempty hlength
  have hsum := congrArg List.length hempty
  simp only [List.length_append, List.length_nil] at hsum
  omega

/-- A gap below the size of the window stays inside of it. -/
theorem Recurs.append (h : Recurs size p entries)
    (hgap : GapAtMost gap p (entries ++ [entry])) (hlt : gap < size) :
    Recurs size p (entries ++ [entry]) := by
  intro before window after hsplit hlength
  obtain rfl | ⟨front, last, rfl⟩ := after.eq_nil_or_concat'
  · rw [List.append_nil] at hsplit
    by_contra hnone
    have hshort := hgap before window hsplit fun other hother hp => hnone ⟨other, hother, hp⟩
    omega
  · rw [← List.append_assoc] at hsplit
    exact h before window front (List.append_inj' hsplit rfl).1 hlength

end Recurs

end Window
