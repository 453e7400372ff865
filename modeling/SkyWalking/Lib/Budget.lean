import Mathlib.Data.List.Basic
import Mathlib.Data.List.Count

/-!
# A budget that is handed out in order

Of those that ask one after the other, the first `size` are granted what they ask for. What is got out
of the budget is a count over them.
-/

namespace Budget

variable {α : Type} {size : Nat} {asks : List α}

theorem take_snoc_of_lt (hlt : asks.length < size) (ask : α) :
    (asks ++ [ask]).take size = asks.take size ++ [ask] := by
  rw [List.take_of_length_le (by simp; omega), List.take_of_length_le (by omega)]

theorem take_snoc_of_ge (hge : size ≤ asks.length) (ask : α) :
    (asks ++ [ask]).take size = asks.take size :=
  List.take_append_of_le_length hge

section Count

variable {good wanted : α → Bool}

/-- Nothing is wasted if and only if everything that was granted is good. -/
theorem countP_take_eq_min_length_iff (size : Nat) (asks : List α) (good : α → Bool) :
    (asks.take size).countP good = min size asks.length ↔ ∀ ask ∈ asks.take size, good ask := by
  rw [← List.length_take, List.countP_eq_length]

/-- As many are good as are wanted if and only if the wanted ones are good. -/
theorem countP_eq_countP_iff (hwanted : ∀ ask, good ask = true → wanted ask = true) (l : List α) :
    l.countP good = l.countP wanted ↔ ∀ ask ∈ l, wanted ask = true → good ask = true := by
  have hgood : l.countP good = (l.filter wanted).countP good := by
    rw [List.countP_filter]
    refine List.countP_congr fun ask _ => ?_
    rw [Bool.and_eq_true]
    exact ⟨fun h => ⟨h, hwanted ask h⟩, And.left⟩
  rw [hgood, List.countP_eq_length_filter (p := wanted), List.countP_eq_length]
  simp only [List.mem_filter, and_imp]

/-- The budget serves as many of the wanted as it can, if and only if it is spent on good ones alone,
or large enough for all that are wanted, and these are good. -/
theorem countP_take_eq_min_iff (size : Nat) (asks : List α) (hwanted : ∀ ask, good ask = true → wanted ask = true) :
    (asks.take size).countP good = min size (asks.countP wanted) ↔
      (∀ ask ∈ asks.take size, good ask = true) ∨
        (∀ ask ∈ asks.take size, wanted ask = true → good ask = true) ∧
          ∀ ask ∈ asks.drop size, ¬ wanted ask = true := by
  have hsplit : asks.countP wanted =
      (asks.take size).countP wanted + (asks.drop size).countP wanted := by
    rw [← List.countP_append, List.take_append_drop]
  have hle : (asks.take size).countP good ≤ (asks.take size).countP wanted :=
    List.countP_mono_left fun ask _ => hwanted ask
  have hlength : (asks.take size).countP wanted ≤ (asks.take size).length := List.countP_le_length
  have hsize : (asks.take size).length = min size asks.length := List.length_take
  have hall : asks.countP wanted ≤ asks.length := List.countP_le_length
  constructor
  · intro heq
    by_cases hfull : size ≤ asks.countP wanted
    · left
      apply (countP_take_eq_min_length_iff size asks good).mp
      omega
    · right
      have hsame : (asks.take size).countP good = (asks.take size).countP wanted := by omega
      have hnone : (asks.drop size).countP wanted = 0 := by omega
      exact ⟨(countP_eq_countP_iff hwanted _).mp hsame, List.countP_eq_zero.mp hnone⟩
  · rintro (hgood | ⟨hgood, hrest⟩)
    · have hcount := (countP_take_eq_min_length_iff size asks good).mpr hgood
      omega
    · have hnone : (asks.drop size).countP wanted = 0 := List.countP_eq_zero.mpr hrest
      have hsame := (countP_eq_countP_iff hwanted _).mpr hgood
      omega

end Count

end Budget
