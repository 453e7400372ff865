import Mathlib.Data.Bool.AllAny
import SkyWalking.Lib.Text

/-!
# Text between dashes

The delimiters of an armored text have five dashes on both sides. A text is a row of pieces without five dashes in
succession, with five dashes between one and the next: a delimiter is found where a piece, but for the dashes at its
ends, is the inside of the delimiter.
-/

namespace Armor

open Text

def dashes : List Char := "-----".toList

/-- The inside between five dashes on both sides. -/
def delimiter (inside : List Char) : List Char := dashes ++ (inside ++ dashes)

/-- The piece without the dashes at its ends. -/
def trim (piece : List Char) : List Char :=
  (piece.dropWhile (· = '-')).rdropWhile (· = '-')

/-- Five dashes in front of each piece. -/
def following (pieces : List (List Char)) : List Char := pieces.flatMap (dashes ++ ·)

/-- The pieces with five dashes between them. -/
def join (pieces : List (List Char)) : List Char := dashes.intercalate pieces

/-- What may stand inside a delimiter. -/
structure IsInside (inside : List Char) : Prop where
  ne_nil : inside ≠ []
  no_dash : '-' ∉ inside

instance (inside : List Char) : Decidable (IsInside inside) :=
  decidable_of_iff (inside ≠ [] ∧ '-' ∉ inside) ⟨fun h => ⟨h.1, h.2⟩, fun h => ⟨h.1, h.2⟩⟩

variable {inside piece text rest : List Char} {pieces others : List (List Char)}

theorem join_cons : join (piece :: pieces) = piece ++ following pieces :=
  intercalate_cons dashes piece pieces

theorem following_cons : following (piece :: pieces) = dashes ++ (piece ++ following pieces) := by
  simp [following]

theorem following_append : following (pieces ++ others) = following pieces ++ following others :=
  List.flatMap_append

theorem following_eq_join : following pieces = join ([] :: pieces) := by
  rw [join_cons, List.nil_append]

theorem dashes_eq : dashes = List.replicate 5 '-' := rfl

theorem join_append : join (piece :: (pieces ++ others)) = join (piece :: pieces) ++ following others := by
  rw [join_cons, join_cons, following_append, List.append_assoc]

theorem mem_dashes {c : Char} (h : c ∈ dashes) : c = '-' := by
  rw [dashes_eq] at h
  exact List.eq_of_mem_replicate h

theorem free_of_no_dash (h : '-' ∉ piece) : ¬ dashes <:+: piece := fun hcontained =>
  h (hcontained.subset (by decide))

theorem IsInside.free (h : IsInside inside) : ¬ dashes <:+: inside := free_of_no_dash h.no_dash

theorem eq_replicate_of_prefix_dashes (h : piece <+: dashes) :
    piece = List.replicate piece.length '-' :=
  List.eq_replicate_iff.mpr ⟨rfl, fun _ hc => mem_dashes (h.subset hc)⟩

/-- Dashes in front of five dashes are dashes behind five dashes. -/
theorem replicate_append_dashes (n : Nat) :
    List.replicate n '-' ++ dashes = dashes ++ List.replicate n '-' := by
  rw [dashes_eq, ← List.replicate_add, ← List.replicate_add, Nat.add_comm]

theorem IsInside.not_prefix_dash (h : IsInside inside) {n : Nat} (hn : 0 < n) :
    ¬ inside ++ text <+: List.replicate n '-' ++ rest := by
  intro hbegins
  obtain ⟨c, tail, rfl⟩ := List.exists_cons_of_ne_nil h.ne_nil
  obtain ⟨n, rfl⟩ := Nat.exists_eq_add_of_lt hn
  have hc : c = '-' := (List.cons_prefix_cons.mp hbegins).1
  exact h.no_dash (hc ▸ List.mem_cons_self)

theorem not_infix_replicate_append {n : Nat} (hn : n < 5) (h : '-' ∉ inside) :
    ¬ dashes <:+: List.replicate n '-' ++ inside := by
  intro hcontained
  have hcount := hcontained.sublist.count_le '-'
  rw [List.count_append, List.count_replicate_self, List.count_eq_zero.mpr h] at hcount
  have hfive : dashes.count '-' = 5 := by decide
  omega

theorem IsInside.dropWhile_append (h : IsInside inside) (text : List Char) :
    (inside ++ text).dropWhile (· = '-') = inside ++ text := by
  obtain ⟨c, tail, rfl⟩ := List.exists_cons_of_ne_nil h.ne_nil
  have hc : c ≠ '-' := fun heq => h.no_dash (heq ▸ List.mem_cons_self)
  exact List.dropWhile_cons_of_neg (by simpa using hc)

theorem IsInside.reverse (h : IsInside inside) : IsInside inside.reverse :=
  ⟨fun hnil => h.ne_nil (List.reverse_eq_nil_iff.mp hnil), fun hmem =>
    h.no_dash (List.mem_reverse.mp hmem)⟩

theorem dropWhile_replicate (n : Nat) (text : List Char) :
    (List.replicate n '-' ++ text).dropWhile (· = '-') = text.dropWhile (· = '-') :=
  List.dropWhile_append_of_pos fun c hc => by simpa using List.eq_of_mem_replicate hc

theorem trim_replicate (h : IsInside inside) (left right : Nat) :
    trim (List.replicate left '-' ++ (inside ++ List.replicate right '-')) = inside := by
  have hend := h.reverse.dropWhile_append []
  rw [List.append_nil] at hend
  rw [trim, dropWhile_replicate, h.dropWhile_append, List.rdropWhile, List.reverse_append,
    List.reverse_replicate, dropWhile_replicate, hend, List.reverse_reverse]

theorem trim_inside (h : IsInside inside) : trim inside = inside := by
  have := trim_replicate h 0 0
  simpa using this

theorem trim_of_no_dash (h : '-' ∉ piece) : trim piece = piece := by
  by_cases hnil : piece = []
  · rw [hnil]
    rfl
  · exact trim_inside ⟨hnil, h⟩

theorem drop_dashes {n : Nat} (hn : n < 5) (inside text : List Char) :
    (dashes ++ text).drop n = List.replicate (5 - n) '-' ++ text ∧
      delimiter inside = List.replicate (5 - n) '-' ++ (List.replicate n '-' ++ (inside ++ dashes)) := by
  have hdashes : dashes = List.replicate (5 - n) '-' ++ List.replicate n '-' := by
    rw [← List.replicate_add, Nat.sub_add_cancel (Nat.le_of_lt hn), dashes_eq]
  have hdrop : dashes.drop n = List.replicate (5 - n) '-' := by
    rw [dashes_eq, List.drop_replicate]
  constructor
  · rw [List.drop_append_of_le_length (Nat.le_of_lt hn), hdrop]
  · rw [delimiter, ← List.append_assoc (List.replicate (5 - n) '-'), ← hdashes]

variable (hinside : IsInside inside) (hpiece : ¬ dashes <:+: piece)

include hinside hpiece

/-- No delimiter begins in a piece. -/
theorem not_prefix_in_piece {n : Nat} (hn : n < piece.length) :
    ¬ delimiter inside <+: piece.drop n ++ (dashes ++ rest) := by
  intro hbegins
  have hdashes : dashes <+: piece.drop n ++ (dashes ++ rest) :=
    (List.prefix_append _ _).trans hbegins
  obtain hshort | hlong := List.prefix_or_prefix_of_prefix hdashes (List.prefix_append _ _)
  · exact hpiece (hshort.isInfix.trans (List.drop_suffix n piece).isInfix)
  · rw [eq_replicate_of_prefix_dashes hlong, ← List.append_assoc, replicate_append_dashes,
      List.append_assoc, delimiter, List.prefix_append_right_inj] at hbegins
    refine hinside.not_prefix_dash ?_ hbegins
    rw [List.length_drop]
    omega

/-- In the dashes in front of a piece, a delimiter only begins if the piece is its inside. -/
theorem trim_of_isPrefix {n : Nat} (hn : n < 5)
    (h : List.replicate n '-' ++ (inside ++ dashes) <+: piece ++ (dashes ++ rest)) :
    trim piece = inside := by
  have hshows : ∀ tail, piece = (List.replicate n '-' ++ inside) ++ tail → tail <+: dashes →
      trim piece = inside := by
    rintro tail rfl htail
    rw [eq_replicate_of_prefix_dashes htail, List.append_assoc, trim_replicate hinside]
  rw [← List.append_assoc] at h
  obtain hshort | hlong := List.prefix_or_prefix_of_prefix h (List.prefix_append _ _)
  · exact absurd ((List.suffix_append _ _).isInfix.trans hshort.isInfix) hpiece
  · obtain ⟨tail, htail⟩ | ⟨tail, htail⟩ :=
      List.prefix_or_prefix_of_prefix (List.prefix_append _ dashes) hlong
    · apply hshows tail htail.symm
      rw [← htail] at hlong
      exact (List.prefix_append_right_inj _).mp hlong
    · -- the piece ends in the inside: what is missing of it would be dashes
      have hcut : tail ++ dashes <+: dashes ++ rest := by
        rw [← htail, List.append_assoc] at h
        exact (List.prefix_append_right_inj _).mp h
      cases htail' : tail with
      | nil =>
          rw [htail', List.append_nil] at htail
          exact hshows [] (by rw [htail, List.append_nil]) (List.nil_prefix)
      | cons c others =>
          obtain hshort | hlong := List.prefix_or_prefix_of_prefix
            ((List.prefix_append tail dashes).trans hcut) (List.prefix_append dashes rest)
          · have hends := congrArg List.getLast? htail
            rw [List.getLast?_append_of_ne_nil _ (htail' ▸ List.cons_ne_nil c others),
              List.getLast?_append_of_ne_nil _ hinside.ne_nil] at hends
            obtain ⟨d, hd⟩ := List.getLast?_isSome.mpr hinside.ne_nil |> Option.isSome_iff_exists.mp
            have hdash : d = '-' := mem_dashes (hshort.subset (List.mem_of_getLast? (hends.trans hd)))
            exact absurd (hdash ▸ List.mem_of_getLast? hd) hinside.no_dash
          · exact absurd (hlong.isInfix.trans (htail ▸ (List.suffix_append piece tail).isInfix))
              (not_infix_replicate_append hn hinside.no_dash)

/-- A piece that is not the inside of the delimiter is passed by. -/
theorem find?_pass (htrim : trim piece ≠ inside) :
    find? (delimiter inside) (dashes ++ (piece ++ (dashes ++ rest))) =
      (find? (delimiter inside) (dashes ++ rest)).map (· + (dashes ++ piece).length) := by
  rw [← List.append_assoc]
  apply find?_append
  intro n hn hbegins
  by_cases hfive : n < 5
  · obtain ⟨hdrop, hdelimiter⟩ := drop_dashes hfive inside piece
    rw [hdrop, hdelimiter, List.append_assoc, List.prefix_append_right_inj] at hbegins
    exact htrim (trim_of_isPrefix hinside hpiece hfive hbegins)
  · obtain ⟨n, rfl⟩ := Nat.exists_eq_add_of_le (Nat.le_of_not_lt hfive)
    rw [List.length_append] at hn
    have hdrop : (dashes ++ piece).drop (5 + n) = piece.drop n :=
      @List.drop_length_add_append _ dashes piece n
    rw [hdrop] at hbegins
    exact not_prefix_in_piece hinside hpiece (Nat.lt_of_add_lt_add_left hn) hbegins

omit hinside in
/-- No delimiter stands around the last piece. -/
theorem find?_last : find? (delimiter inside) (dashes ++ piece) = none := by
  have hnothing : find? (delimiter inside) (dashes ++ piece ++ []) =
      (find? (delimiter inside) []).map (· + (dashes ++ piece).length) := by
    apply find?_append
    intro n hn hbegins
    rw [List.append_nil] at hbegins
    by_cases hfive : n < 5
    · obtain ⟨hdrop, hdelimiter⟩ := drop_dashes hfive inside piece
      rw [hdrop, hdelimiter, List.prefix_append_right_inj, ← List.append_assoc] at hbegins
      exact hpiece ((List.suffix_append _ _).isInfix.trans hbegins.isInfix)
    · obtain ⟨n, rfl⟩ := Nat.exists_eq_add_of_le (Nat.le_of_not_lt hfive)
      have hdrop : (dashes ++ piece).drop (5 + n) = piece.drop n :=
      @List.drop_length_add_append _ dashes piece n
      rw [hdrop] at hbegins
      exact hpiece (((List.prefix_append _ _).trans hbegins).isInfix.trans
        (List.drop_suffix n piece).isInfix)
  rw [List.append_nil] at hnothing
  rw [hnothing]
  rfl

theorem find?_first :
    find? (delimiter inside) (piece ++ (dashes ++ rest)) =
      (find? (delimiter inside) (dashes ++ rest)).map (· + piece.length) :=
  find?_append fun _ hn => not_prefix_in_piece hinside hpiece hn

omit hinside in
theorem find?_piece : find? (delimiter inside) piece = none := by
  rw [find?_eq_none_iff]
  exact fun hcontained => hpiece ((List.prefix_append _ _).isInfix.trans hcontained)

omit hinside hpiece

/-- The pieces contain no five dashes in succession. -/
def Free (pieces : List (List Char)) : Prop := ∀ piece ∈ pieces, ¬ dashes <:+: piece

theorem free_of_no_dashes (h : ∀ piece ∈ pieces, '-' ∉ piece) : Free pieces := fun piece hpiece =>
  free_of_no_dash (h piece hpiece)

theorem exists_following (h : pieces ≠ []) : ∃ text, following pieces = dashes ++ text := by
  obtain ⟨piece, others, rfl⟩ := List.exists_cons_of_ne_nil h
  exact ⟨_, following_cons⟩

section Search

variable (hinside : IsInside inside)

include hinside

theorem find?_following_append (hfree : Free pieces) (hother : ∀ piece ∈ pieces, trim piece ≠ inside)
    (hne : others ≠ []) :
    find? (delimiter inside) (following pieces ++ following others) =
      (find? (delimiter inside) (following others)).map (· + (following pieces).length) := by
  induction pieces with
  | nil => simp [following]
  | cons piece pieces ih =>
      obtain ⟨hpiece, hpieces⟩ := List.forall_mem_cons.mp hfree
      obtain ⟨htrim, hother⟩ := List.forall_mem_cons.mp hother
      have hrest : pieces ++ others ≠ [] := List.append_ne_nil_of_right_ne_nil _ hne
      obtain ⟨text, htext⟩ := exists_following hrest
      have hjoin : following (piece :: pieces) ++ following others =
          dashes ++ (piece ++ (dashes ++ text)) := by
        rw [following_cons, List.append_assoc, List.append_assoc, ← following_append, htext]
      rw [hjoin, find?_pass hinside hpiece htrim, ← htext, following_append, ih hpieces hother,
        Option.map_map]
      congr 1
      funext found
      simp only [Function.comp_apply, following_cons, List.length_append]
      omega

theorem find?_following_last (hfree : Free (pieces ++ [piece]))
    (hother : ∀ piece ∈ pieces, trim piece ≠ inside) :
    find? (delimiter inside) (following (pieces ++ [piece])) = none := by
  have hpieces : Free pieces := fun p hp => hfree p (List.mem_append_left _ hp)
  have hlast : following [piece] = dashes ++ piece := by simp [following]
  rw [following_append, find?_following_append hinside hpieces hother (List.cons_ne_nil _ _), hlast,
    find?_last (hfree piece (by simp))]
  rfl

end Search

theorem find?_following_inside :
    find? (delimiter inside) (following (inside :: piece :: pieces)) = some 0 := by
  apply find?_of_isPrefix
  rw [following_cons, following_cons, delimiter]
  exact ⟨piece ++ following pieces, by simp⟩

/-- A delimiter is found behind the pieces that are not its inside. -/
theorem find?_join (hinside : IsInside inside) (hfree : Free (piece :: pieces))
    (hother : ∀ piece ∈ pieces, trim piece ≠ inside) (next : List Char)
    (others : List (List Char)) :
    find? (delimiter inside) (join (piece :: (pieces ++ inside :: next :: others))) =
      some (join (piece :: pieces)).length := by
  obtain ⟨hpiece, hpieces⟩ := List.forall_mem_cons.mp hfree
  have hne : pieces ++ inside :: next :: others ≠ [] := by simp
  obtain ⟨text, htext⟩ := exists_following hne
  rw [join_cons, htext, find?_first hinside hpiece, ← htext, following_append,
    find?_following_append hinside hpieces hother (List.cons_ne_nil _ _), find?_following_inside,
    join_cons, List.length_append, Option.map_some, Option.map_some, Nat.zero_add, Nat.add_comm]

/-- No delimiter is found if no piece but perhaps the first one and the last one is its inside. -/
theorem find?_join_none (hinside : IsInside inside) (hfree : Free (piece :: pieces))
    (hother : ∀ piece ∈ pieces.dropLast, trim piece ≠ inside) :
    find? (delimiter inside) (join (piece :: pieces)) = none := by
  obtain ⟨hpiece, hpieces⟩ := List.forall_mem_cons.mp hfree
  cases pieces using List.reverseRecOn with
  | nil =>
      rw [join_cons, following, List.flatMap_nil, List.append_nil]
      exact find?_piece hpiece
  | append_singleton pieces last =>
      rw [List.dropLast_concat] at hother
      have hne : pieces ++ [last] ≠ [] := by simp
      obtain ⟨text, htext⟩ := exists_following hne
      rw [join_cons, htext, find?_first hinside hpiece, ← htext,
        find?_following_last hinside hpieces hother]
      rfl

/-- A block between two delimiters, and what follows it. -/
theorem following_block (opening body closing after : List Char) (others : List (List Char)) :
    following (opening :: body :: closing :: after :: others) =
      delimiter opening ++ (body ++ (delimiter closing ++ (after ++ following others))) := by
  simp [following, delimiter]

/-- From the opening delimiter on, the closing delimiter is found behind the body. -/
theorem find?_closing {opening body closing : List Char} (hopening : IsInside opening)
    (hclosing : IsInside closing) (hbody : ¬ dashes <:+: body) (hne : opening ≠ closing)
    (htrim : trim body ≠ closing) (after : List Char) (others : List (List Char)) :
    find? (delimiter closing) (following (opening :: body :: closing :: after :: others)) =
      some (delimiter opening ++ body).length := by
  have hfree : Free [[], opening, body] := by
    intro piece hpiece
    simp only [List.mem_cons, List.not_mem_nil, or_false] at hpiece
    obtain rfl | rfl | rfl := hpiece
    · exact free_of_no_dash List.not_mem_nil
    · exact hopening.free
    · exact hbody
  have hother : ∀ piece ∈ [opening, body], trim piece ≠ closing := by
    intro piece hpiece
    simp only [List.mem_cons, List.not_mem_nil, or_false] at hpiece
    obtain rfl | rfl := hpiece
    · rwa [trim_inside hopening]
    · exact htrim
  have hfound := find?_join hclosing hfree hother after others
  have hjoin : join [[], opening, body] = delimiter opening ++ body := by
    simp [join_cons, following, delimiter]
  rw [hjoin] at hfound
  rw [following_eq_join]
  exact hfound

/-- A text that does not run into a row of dashes is found in a piece or not at all. -/
theorem not_infix_join {needle : List Char} (hhead : needle.head? ≠ some '-')
    (hlast : needle.getLast? ≠ some '-') (hpair : ¬ ['-', '-'] <:+: needle)
    (hpieces : ∀ p ∈ piece :: pieces, ¬ needle <:+: p) : ¬ needle <:+: join (piece :: pieces) := by
  induction pieces generalizing piece with
  | nil =>
      rw [join_cons, following, List.flatMap_nil, List.append_nil]
      exact hpieces piece List.mem_cons_self
  | cons next pieces ih =>
      obtain ⟨hpiece, hrest⟩ := List.forall_mem_cons.mp hpieces
      have hjoin : join (piece :: next :: pieces) = piece ++ (dashes ++ join (next :: pieces)) := by
        rw [join_cons, following_cons, join_cons]
      have hne : needle ≠ [] := by
        rintro rfl
        exact hpiece (List.nil_infix)
      rw [hjoin]
      rintro ⟨front, back, heq⟩
      rw [List.append_assoc] at heq
      obtain ⟨cut, rfl, hcut⟩ | ⟨cut, rfl, hcut⟩ := List.append_eq_append_iff.mp heq
      · -- it begins in the piece
        obtain ⟨tail, rfl, -⟩ | ⟨tail, rfl, htail⟩ := List.append_eq_append_iff.mp hcut
        · exact hpiece ⟨front, tail, by simp⟩
        · cases tail with
          | nil => exact hpiece ⟨front, [], by simp⟩
          | cons first tail =>
              obtain rfl : '-' = first := (List.cons.inj htail).1
              cases tail with
              | nil => exact hlast (by simp)
              | cons second tail =>
                  obtain rfl : '-' = second := (List.cons.inj (List.cons.inj htail).2).1
                  exact hpair ⟨cut, tail, by simp⟩
      · -- it begins in the dashes or behind them
        obtain ⟨tail, rfl, htail⟩ | ⟨tail, hdashes, htail⟩ := List.append_eq_append_iff.mp hcut
        · exact ih hrest ⟨tail, back, by rw [htail, List.append_assoc]⟩
        · cases tail with
          | nil => exact ih hrest ⟨[], back, htail⟩
          | cons first tail =>
              obtain ⟨c, needle, rfl⟩ := List.exists_cons_of_ne_nil hne
              have hfirst : first = '-' := mem_dashes (by rw [hdashes]; simp)
              have hc : c = first := (List.cons.inj htail).1
              exact hhead (by rw [hc, hfirst]; rfl)

/-- Lines of the same length are the front of the text. -/
theorem flatten_lines (n k : Nat) (text : List Char) :
    ((List.range k).map fun i => (text.drop (n * i)).take n).flatten = text.take (n * k) := by
  induction k with
  | zero => simp
  | succ k ih =>
      rw [List.range_succ, List.map_append, List.flatten_append, ih, Nat.mul_succ, List.take_add]
      simp

end Armor
