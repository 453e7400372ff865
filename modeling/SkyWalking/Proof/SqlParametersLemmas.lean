import SkyWalking.Plugins.SqlParameters

/-!
# Where the rows of a tag end

The running total is the length of the rows before, so that the slice keeps as many characters of the row as the limit
has left.
-/

namespace SkyWalking

namespace SqlParameters

variable {rows before after : List (List Char)} {row text : List Char} {maxLength : Nat}

theorem totalLength_cons : totalLength (row :: rows) = row.length + totalLength rows := by
  rw [totalLength, List.map_cons, List.sum_cons, totalLength]

theorem totalLength_append : totalLength (before ++ after) = totalLength before + totalLength after := by
  rw [totalLength, List.map_append, List.sum_append, totalLength, totalLength]

/-- The slice with the negative bound leaves what the limit has left. -/
theorem sliceTo_excess {done : Nat} (hdone : done ≤ maxLength) (hlong : maxLength < done + row.length) :
    sliceTo row ((maxLength : Int) - ((done : Int) + row.length)) = row.take (maxLength - done) := by
  have hnegative : (maxLength : Int) - ((done : Int) + row.length) < 0 := by omega
  rw [sliceTo, if_pos hnegative]
  congr 1
  omega

/-- What the loop appends, from a total that is within the limit. -/
theorem textList_spec {done : Nat} (hdone : done ≤ maxLength) (rows : List (List Char)) :
    done + totalLength rows ≤ maxLength ∧ textList maxLength done rows = rows ∨
    ∃ before row after, rows = before ++ row :: after ∧ done + totalLength before ≤ maxLength ∧
      maxLength < done + totalLength (before ++ [row]) ∧
      textList maxLength done rows =
        before ++ [row.take (maxLength - (done + totalLength before)) ++ "...".toList] := by
  induction rows generalizing done with
  | nil => exact .inl ⟨hdone, rfl⟩
  | cons row rows ih =>
      rw [textList]
      split
      · next hlong =>
        refine .inr ⟨[], row, rows, rfl, hdone, ?_, ?_⟩
        · simp [totalLength]
          omega
        · rw [sliceTo_excess hdone (by omega)]
          rfl
      · next hshort =>
        have hrow : done + row.length ≤ maxLength := by omega
        obtain ⟨htotal, heq⟩ | ⟨before, next, after, rfl, hbefore, hlong, heq⟩ := ih hrow
        · refine .inl ⟨by rw [totalLength_cons]; omega, ?_⟩
          rw [← Nat.cast_add, heq]
        · refine .inr ⟨row :: before, next, after, rfl, ?_, ?_, ?_⟩
          · rw [totalLength_cons]
            omega
          · rw [List.cons_append, totalLength_cons]
            omega
          · rw [← Nat.cast_add, heq, totalLength_cons, Nat.add_assoc]
            rfl

theorem commaJoin_cons (h : rows ≠ []) : commaJoin (row :: rows) = (row ++ [',']) ++ commaJoin rows := by
  obtain ⟨next, rest, rfl⟩ := List.exists_cons_of_ne_nil h
  exact List.intercalate_cons_cons

theorem commaJoin_concat (rows : List (List Char)) (text closing : List Char) :
    commaJoin (rows ++ [text ++ closing]) = commaJoin (rows ++ [text]) ++ closing :=
  Text.intercalate_closing [','] closing rows text

/-- Rows that end early begin the rows. -/
theorem commaJoin_isPrefix {kept : List Char} (h : kept <+: row) :
    commaJoin (before ++ [kept]) <+: commaJoin (before ++ row :: after) := by
  induction before with
  | nil =>
      obtain ⟨tail, rfl⟩ := h
      rw [commaJoin, commaJoin, List.nil_append, List.nil_append, List.intercalate_singleton,
        Text.intercalate_opening]
      exact List.prefix_append _ _
  | cons first before ih =>
      rw [List.cons_append, List.cons_append, commaJoin_cons (by simp), commaJoin_cons (by simp)]
      exact (List.prefix_append_right_inj _).mpr ih

theorem isCut_textList (maxLength : Nat) (rows : List (List Char)) :
    IsCut maxLength rows (commaJoin (textList maxLength 0 rows)) := by
  have hspec := textList_spec (Nat.zero_le maxLength) rows
  rw [Nat.cast_zero] at hspec
  obtain ⟨htotal, heq⟩ | ⟨before, row, after, rfl, hbefore, hlong, heq⟩ := hspec
  · rw [Nat.zero_add] at htotal
    exact .whole htotal (by rw [heq])
  · rw [Nat.zero_add] at hbefore hlong heq
    have hkept : row.take (maxLength - totalLength before) <+: row := List.take_prefix _ _
    have hlength : totalLength (before ++ [row.take (maxLength - totalLength before)]) = maxLength := by
      rw [totalLength_append] at hlong ⊢
      simp only [totalLength, List.map_singleton, List.sum_singleton, List.length_take] at hlong hbefore ⊢
      omega
    refine .cut before after row _ rfl hbefore hlong hkept hlength (commaJoin_isPrefix hkept) ?_
    rw [heq, commaJoin_concat]

/-- The tags of the three plugins hold one text, which ends where the limit is reached. -/
theorem executemany_text (rows : List (List (List Char))) (maxLength : Nat) (h : 1 ≤ maxLength) :
    ∃ text, IsCut maxLength (rows.map rowText) text ∧
      psycopgExecutemany maxLength rows = some (bracketed text) ∧
      psycopg2Executemany maxLength rows = some (bracketed text) ∧
      asyncpgBind maxLength (.many rows) = some (bracketed text) := by
  have hne : (maxLength : Int) ≠ 0 := by omega
  refine ⟨_, isCut_textList maxLength (rows.map rowText), ?_, ?_, ?_⟩
  · rw [psycopgExecutemany, if_neg hne, manyTag]
  · rw [psycopg2Executemany, if_neg hne, manyTag]
  · rw [asyncpgBind, if_neg hne, manyTag]

/-- The limit is reached at the end of the first row. -/
theorem executemany_two_rows :
    ∃ text, IsCut 3 ([["a".toList], ["b".toList]].map rowText) text ∧
      psycopgExecutemany (3 : Nat) [["a".toList], ["b".toList]] = some (bracketed text) ∧
      psycopg2Executemany (3 : Nat) [["a".toList], ["b".toList]] = some (bracketed text) ∧
      asyncpgBind (3 : Nat) (.many [["a".toList], ["b".toList]]) = some (bracketed text) :=
  executemany_text [["a".toList], ["b".toList]] 3 (by decide)

end SqlParameters

end SkyWalking
