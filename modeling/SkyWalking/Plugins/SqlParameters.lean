import SkyWalking.Lib.Text

/-!
# The parameters tag of the PostgreSQL plugins

The texts of the parameters are what `str` makes of them. A tag is cut where the rows have become too long.
-/

namespace SkyWalking

namespace SqlParameters

/-- `text[:stop]`. A negative bound counts from the end. -/
def sliceTo (text : List Char) (stop : Int) : List Char :=
  if stop < 0 then text.take (text.length + stop).toNat else text.take stop.toNat

def commaJoin (texts : List (List Char)) : List Char := [','].intercalate texts

/-- A text between brackets. -/
def bracketed (text : List Char) : List Char := '[' :: (text ++ [']'])

def rowText (vars : List (List Char)) : List Char := bracketed (commaJoin vars)

/-- The loop over the rows, from the running total on. -/
def textList (maxLen : Int) : Int → List (List Char) → List (List Char)
  | _, [] => []
  | totalLen, text :: rest =>
      if maxLen < totalLen + text.length then
        [sliceTo text (maxLen - (totalLen + text.length)) ++ "...".toList]
      else text :: textList maxLen (totalLen + text.length) rest

def manyTag (maxLen : Int) (rows : List (List (List Char))) : List Char :=
  bracketed (commaJoin (textList maxLen 0 (rows.map rowText)))

/-- `executemany` of `sw_psycopg`; the asynchronous cursor does the same. `none` where there is no tag. -/
def psycopgExecutemany (maxLength : Int) (varsList : List (List (List Char))) : Option (List Char) :=
  if maxLength = 0 then none else some (manyTag maxLength varsList)

/-- `executemany` of `sw_psycopg2`. -/
def psycopg2Executemany (maxLength : Int) (varsList : List (List (List Char))) : Option (List Char) :=
  if maxLength = 0 then none else some (manyTag maxLength varsList)

/-- What `__bind` is called with. -/
inductive BindParams where
  | none
  | one (params : List (List Char))
  | many (params : List (List (List Char)))

/-- `__bind` of `sw_asyncpg`. -/
def asyncpgBind (maxLength : Int) : BindParams → Option (List Char)
  | .none => Option.none
  | .one params =>
      if maxLength = 0 then Option.none
      else
        let text := commaJoin params
        if maxLength < text.length then some (bracketed (sliceTo text maxLength ++ "...".toList))
        else some (bracketed text)
  | .many params => if maxLength = 0 then Option.none else some (manyTag maxLength params)

example : psycopgExecutemany 7 [["ab".toList, "c".toList], ["de".toList]] =
    some "[[ab,c],[...]".toList := by decide

def totalLength (rows : List (List Char)) : Nat := (rows.map List.length).sum

/-- The rows whole, or what the first ones of their characters make, and three dots. -/
inductive IsCut (maxLength : Nat) (rows : List (List Char)) (text : List Char) : Prop where
  | whole : totalLength rows ≤ maxLength → text = commaJoin rows → IsCut maxLength rows text
  | cut (before after : List (List Char)) (row kept : List Char) :
      rows = before ++ row :: after →
      totalLength before ≤ maxLength → maxLength < totalLength (before ++ [row]) →
      kept <+: row → totalLength (before ++ [kept]) = maxLength →
      commaJoin (before ++ [kept]) <+: commaJoin rows →
      text = commaJoin (before ++ [kept]) ++ "...".toList → IsCut maxLength rows text

end SqlParameters

end SkyWalking
