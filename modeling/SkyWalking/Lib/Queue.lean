import Mathlib.Data.List.Basic

/-!
# Bounded queues

The items of a first-in-first-out queue are a list, the oldest first. A bound of zero is no bound.
-/

namespace Queue

variable {α : Type}

def full (maxsize : Nat) (items : List α) : Bool := 0 < maxsize && maxsize ≤ items.length

/-- The items after a put that does not wait, `none` if there is no room. -/
def put (maxsize : Nat) (items : List α) (item : α) : Option (List α) :=
  if full maxsize items then none else some (items ++ [item])

@[simp]
theorem full_nil (maxsize : Nat) : full maxsize ([] : List α) = false := by
  cases maxsize <;> rfl

theorem put_nil (maxsize : Nat) (item : α) : put maxsize [] item = some [item] := by
  simp [put]

end Queue
