import Mathlib.Data.List.Basic
import Mathlib.Data.List.Induction
import Mathlib.Data.List.Nodup

/-!
# Lists of distinct entries

A list that takes in new entries one after the other, each unless it is known already. `known` is what
the list holds at the start.
-/

namespace Distinct

variable {α : Type} [DecidableEq α]

theorem removeAll_removeAll (entries first second : List α) :
    (entries.removeAll first).removeAll second = entries.removeAll (first ++ second) := by
  simp [List.removeAll, List.filter_filter, Bool.and_comm]

theorem removeAll_eraseDups (entries known seen : List α) :
    entries.removeAll (known ++ seen.eraseDups) = entries.removeAll (known ++ seen) := by
  simp [List.removeAll]

/-- A list of at most one entry has no duplicates. -/
theorem eraseDups_toList_removeAll (entry : Option α) (known : List α) :
    (entry.toList.removeAll known).eraseDups = entry.toList.removeAll known := by
  cases entry with
  | none => simp
  | some entry =>
      by_cases hknown : entry ∈ known
      · simp [List.removeAll, hknown]
      · simp [List.removeAll, hknown, List.eraseDups_cons]

theorem nodup_eraseDups (entries : List α) : entries.eraseDups.Nodup := by
  induction entries using List.reverseRecOn with
  | nil => simp
  | append_singleton entries last ih =>
      rw [List.eraseDups_append, List.nodup_append]
      refine ⟨ih, ?_, ?_⟩
      · rw [← Option.toList_some, eraseDups_toList_removeAll]
        exact (List.nodup_singleton last).filter _
      · rintro entry hentry other hother rfl
        have hnew := (List.mem_filter.mp (List.mem_eraseDups.mp hother)).2
        simp [List.mem_eraseDups.mp hentry] at hnew

/-- What one more entry adds to the list. -/
theorem eraseDups_removeAll_append (known entries : List α) (last : Option α) :
    ((entries ++ last.toList).removeAll known).eraseDups =
      (entries.removeAll known).eraseDups ++
        last.toList.removeAll (known ++ (entries.removeAll known).eraseDups) := by
  have hsplit : (entries ++ last.toList).removeAll known =
      entries.removeAll known ++ last.toList.removeAll known := List.filter_append ..
  rw [hsplit, List.eraseDups_append, removeAll_removeAll, eraseDups_toList_removeAll,
    removeAll_eraseDups]

/-- Entries that the distinct ones start with may as well be known before. -/
theorem append_eraseDups_removeAll {known entries : List α} (hstart : known <+: entries.eraseDups) :
    known ++ (entries.removeAll known).eraseDups = entries.eraseDups := by
  induction known generalizing entries with
  | nil => simp [List.removeAll]
  | cons entry known ih =>
      cases entries with
      | nil => simp at hstart
      | cons first rest =>
          rw [List.eraseDups_cons] at hstart ⊢
          obtain ⟨rfl, hrest⟩ := List.cons_prefix_cons.mp hstart
          have hremove : (entry :: rest).removeAll (entry :: known) =
              (rest.filter fun e => !e == entry).removeAll known := by
            simp [List.removeAll, List.filter_filter, Bool.and_comm, Bool.beq_eq_decide_eq]
          rw [List.cons_append, hremove, ih hrest]

/-- The list ends with the distinct entries alone exactly if it started with the first ones of them. -/
theorem append_eraseDups_removeAll_iff {known entries : List α} :
    known ++ (entries.removeAll known).eraseDups = entries.eraseDups ↔
      known <+: entries.eraseDups := by
  constructor
  · intro h
    exact ⟨_, h⟩
  · exact append_eraseDups_removeAll

end Distinct
