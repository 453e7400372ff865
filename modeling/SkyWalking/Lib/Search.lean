import Mathlib.Order.Basic
import Mathlib.Tactic.Common

/-!
# Binary search

The test holds up to some index and not from there on; the search finds where it ceases to hold.
-/

namespace Search

/-- Search between `left` and `right` for the first index at which the test fails. -/
def firstFailing (test : Nat → Bool) (left right : Nat) : Nat :=
  if left < right then
    let mid := (left + right) / 2
    if test mid then firstFailing test (mid + 1) right
    else firstFailing test left mid
  else left
termination_by right - left

variable {test : Nat → Bool} {left right : Nat}

/-- The search does not leave its bounds. -/
theorem firstFailing_mem (test : Nat → Bool) (h : left ≤ right) :
    left ≤ firstFailing test left right ∧ firstFailing test left right ≤ right := by
  fun_induction firstFailing test left right with
  | case1 left right hlt mid htest ih =>
      obtain ⟨hleft, hright⟩ := ih (by omega)
      omega
  | case2 left right hlt mid htest ih =>
      obtain ⟨hleft, hright⟩ := ih (by omega)
      omega
  | case3 left right hge => omega

/-- A test that fails from some index on is met before the result only. -/
theorem test_iff (hmono : ∀ first second, first ≤ second → test second = true → test first = true)
    {index : Nat} (hleft : left ≤ index) (hright : index < right) :
    test index = true ↔ index < firstFailing test left right := by
  fun_induction firstFailing test left right with
  | case1 left right hlt mid htest ih =>
      by_cases hpast : mid + 1 ≤ index
      · exact ih hpast hright
      · have hbounds := firstFailing_mem test (show mid + 1 ≤ right by omega)
        refine ⟨fun _ => by omega, fun _ => hmono index mid (by omega) htest⟩
  | case2 left right hlt mid htest ih =>
      by_cases hbefore : index < mid
      · exact ih hleft hbefore
      · have hbounds := firstFailing_mem test (show left ≤ mid by omega)
        refine ⟨fun hholds => absurd (hmono mid index (by omega) hholds) htest, fun _ => by omega⟩
  | case3 left right hge => omega

end Search
