import Mathlib.Data.List.Basic

/-!
# JSON as a protobuf message

A JSON value, and how a reader of protobuf's JSON form takes fields out of it: a member that is missing
or `null` has the default value of its type.
-/

inductive Json where
  | null
  | bool (value : Bool)
  | num (value : Int)
  | str (value : String)
  | arr (values : List Json)
  | obj (members : List (String × Json))

namespace Json

/-- The member of an object. -/
def field (name : String) : Json → Json
  | .obj members => (members.lookup name).getD .null
  | _ => .null

def toStr? : Json → Option String
  | .null => some ""
  | .str value => some value
  | _ => none

def toInt? : Json → Option Int
  | .null => some 0
  | .num value => some value
  | _ => none

def toBool? : Json → Option Bool
  | .null => some false
  | .bool value => some value
  | _ => none

/-- A repeated field, each element read by `read`. -/
def toList? {α : Type} (read : Json → Option α) : Json → Option (List α)
  | .null => some []
  | .arr values => values.mapM read
  | _ => none

/-- `None` is written as `null`. -/
def ofOption : Option String → Json
  | none => .null
  | some value => .str value

@[simp]
theorem toStr?_ofOption (text : Option String) : (ofOption text).toStr? = some (text.getD "") := by
  cases text <;> rfl

/-- A list that was written element by element reads back element by element. -/
theorem toList?_arr_map {α β : Type} {read : Json → Option α} {write : β → Json} {value : β → α}
    (h : ∀ x, read (write x) = some (value x)) (xs : List β) :
    toList? read (.arr (xs.map write)) = some (xs.map value) := by
  have hmap : ∀ xs : List β, (xs.map write).mapM read = some (xs.map value) := by
    intro xs
    induction xs with
    | nil => rfl
    | cons x rest ih => simp [h, ih]
  exact hmap xs

end Json
