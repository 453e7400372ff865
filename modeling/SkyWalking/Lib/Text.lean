import Mathlib.Data.List.Basic
import Mathlib.Data.List.DropRight
import Mathlib.Data.List.TakeWhile
import Mathlib.Data.Nat.Digits.Defs

/-!
# Text as Python sees it

`str` is a sequence of code points; Lean's `String` is one without lone surrogates. The three tables are
those of the Unicode character database 14.0, which the interpreter's string methods read.
-/

namespace Text

/-- The code points with a numeric value, which `str.isnumeric` accepts. -/
def numericRanges : List (Nat × Nat) :=
  [(48, 57), (178, 179), (185, 185), (188, 190), (1632, 1641), (1776, 1785), (1984, 1993),
   (2406, 2415), (2534, 2543), (2548, 2553), (2662, 2671), (2790, 2799), (2918, 2927),
   (2930, 2935), (3046, 3058), (3174, 3183), (3192, 3198), (3302, 3311), (3416, 3422),
   (3430, 3448), (3558, 3567), (3664, 3673), (3792, 3801), (3872, 3891), (4160, 4169),
   (4240, 4249), (4969, 4988), (5870, 5872), (6112, 6121), (6128, 6137), (6160, 6169),
   (6470, 6479), (6608, 6618), (6784, 6793), (6800, 6809), (6992, 7001), (7088, 7097),
   (7232, 7241), (7248, 7257), (8304, 8304), (8308, 8313), (8320, 8329), (8528, 8578),
   (8581, 8585), (9312, 9371), (9450, 9471), (10102, 10131), (11517, 11517), (12295, 12295),
   (12321, 12329), (12344, 12346), (12690, 12693), (12832, 12841), (12872, 12879), (12881, 12895),
   (12928, 12937), (12977, 12991), (13317, 13317), (13443, 13443), (14378, 14378), (15181, 15181),
   (19968, 19968), (19971, 19971), (19975, 19975), (19977, 19977), (20061, 20061), (20108, 20108),
   (20116, 20116), (20118, 20118), (20159, 20160), (20191, 20191), (20200, 20200), (20237, 20237),
   (20336, 20336), (20740, 20740), (20806, 20806), (20841, 20841), (20843, 20843), (20845, 20845),
   (21313, 21313), (21315, 21317), (21324, 21324), (21441, 21444), (22235, 22235), (22769, 22769),
   (22777, 22777), (24186, 24186), (24318, 24319), (24332, 24334), (24336, 24336), (25342, 25342),
   (25420, 25420), (26578, 26578), (28422, 28422), (29590, 29590), (30334, 30334), (32902, 32902),
   (33836, 33836), (36014, 36014), (36019, 36019), (36144, 36144), (38433, 38433), (38470, 38470),
   (38476, 38476), (38520, 38520), (38646, 38646), (42528, 42537), (42726, 42735), (43056, 43061),
   (43216, 43225), (43264, 43273), (43472, 43481), (43504, 43513), (43600, 43609), (44016, 44025),
   (63851, 63851), (63859, 63859), (63864, 63864), (63922, 63922), (63953, 63953), (63955, 63955),
   (63997, 63997), (65296, 65305), (65799, 65843), (65856, 65912), (65930, 65931), (66273, 66299),
   (66336, 66339), (66369, 66369), (66378, 66378), (66513, 66517), (66720, 66729), (67672, 67679),
   (67705, 67711), (67751, 67759), (67835, 67839), (67862, 67867), (68028, 68029), (68032, 68047),
   (68050, 68095), (68160, 68168), (68221, 68222), (68253, 68255), (68331, 68335), (68440, 68447),
   (68472, 68479), (68521, 68527), (68858, 68863), (68912, 68921), (69216, 69246), (69405, 69414),
   (69457, 69460), (69573, 69579), (69714, 69743), (69872, 69881), (69942, 69951), (70096, 70105),
   (70113, 70132), (70384, 70393), (70736, 70745), (70864, 70873), (71248, 71257), (71360, 71369),
   (71472, 71483), (71904, 71922), (72016, 72025), (72784, 72812), (73040, 73049), (73120, 73129),
   (73664, 73684), (74752, 74862), (92768, 92777), (92864, 92873), (93008, 93017), (93019, 93025),
   (93824, 93846), (119520, 119539), (119648, 119672), (120782, 120831), (123200, 123209),
   (123632, 123641), (125127, 125135), (125264, 125273), (126065, 126123), (126125, 126127),
   (126129, 126132), (126209, 126253), (126255, 126269), (127232, 127244), (130032, 130041),
   (131073, 131073), (131172, 131172), (131298, 131298), (131361, 131361), (133418, 133418),
   (133507, 133507), (133516, 133516), (133532, 133532), (133866, 133866), (133885, 133885),
   (133913, 133913), (140176, 140176), (141720, 141720), (146203, 146203), (156269, 156269),
   (194704, 194704)]

/-- The zeros of the decimal digit blocks: each is followed by its nine other digits. -/
def decimalZeros : List Nat :=
  [48, 1632, 1776, 1984, 2406, 2534, 2662, 2790, 2918, 3046, 3174, 3302, 3430, 3558, 3664, 3792,
   3872, 4160, 4240, 6112, 6160, 6470, 6608, 6784, 6800, 6992, 7088, 7232, 7248, 42528, 43216,
   43264, 43472, 43504, 43600, 44016, 65296, 66720, 68912, 69734, 69872, 69942, 70096, 70384,
   70736, 70864, 71248, 71360, 71472, 71904, 72016, 72784, 73040, 73120, 92768, 92864, 93008,
   120782, 120792, 120802, 120812, 120822, 123200, 123632, 125264, 130032]

/-- The code points of `str.isspace`. -/
def spaceRanges : List (Nat × Nat) :=
  [(9, 13), (28, 32), (133, 133), (160, 160), (5760, 5760), (8192, 8202), (8232, 8233),
   (8239, 8239), (8287, 8287), (12288, 12288)]

def inRanges (ranges : List (Nat × Nat)) (c : Char) : Bool :=
  ranges.any fun range => range.1 ≤ c.toNat && c.toNat ≤ range.2

def isnumericChar (c : Char) : Bool := inRanges numericRanges c

def isspaceChar (c : Char) : Bool := inRanges spaceRanges c

/-- The value of a decimal digit of any script. -/
def decimal? (c : Char) : Option Nat :=
  (decimalZeros.find? fun start => start ≤ c.toNat && c.toNat ≤ start + 9).map (c.toNat - ·)

/-- `str.isnumeric`: at least one character, and all of them numeric. -/
def isnumeric (text : String) : Bool :=
  text ≠ "" && text.toList.all isnumericChar

/-- Decimal digits, with single underscores allowed between them. `value` is what was read so far. -/
def digits? : List Char → Nat → Option Nat
  | [], value => some value
  | '_' :: c :: rest, value => (decimal? c).bind fun digit => digits? rest (10 * value + digit)
  | c :: rest, value => (decimal? c).bind fun digit => digits? rest (10 * value + digit)

def unsignedInt? : List Char → Option Nat
  | [] => none
  | c :: rest => (decimal? c).bind fun digit => digits? rest digit

def stripBy (skipped : Char → Bool) (text : List Char) : List Char :=
  ((text.dropWhile skipped).reverse.dropWhile skipped).reverse

/-- `str.strip`. -/
def strip (text : List Char) : List Char := stripBy isspaceChar text

/-- What `int` skips at both ends: the spaces, without the four separators of ASCII. -/
def isIntSpace (c : Char) : Bool := isspaceChar c && !(28 ≤ c.toNat && c.toNat ≤ 31)

/-- `int(text)` in base ten; `none` where it raises `ValueError`. -/
def int? (text : String) : Option Int :=
  match stripBy isIntSpace text.toList with
  | '+' :: rest => (unsignedInt? rest).map Int.ofNat
  | '-' :: rest => (unsignedInt? rest).map fun value => -Int.ofNat value
  | rest => (unsignedInt? rest).map Int.ofNat

/-- `text.split(separator)` for a separator of one character. -/
def split (separator : Char) (text : String) : List String :=
  (text.toList.splitOn separator).map String.ofList

/-- The parts between the occurrences of a separator, which are found from left to right. The first `skip`
characters still belong to an occurrence. -/
def splitFrom (separator : List Char) : Nat → List Char → List (List Char)
  | _, [] => [[]]
  | skip + 1, _ :: rest => splitFrom separator skip rest
  | 0, c :: rest =>
      if separator.isPrefixOf (c :: rest) then
        [] :: splitFrom separator (separator.length - 1) rest
      else (splitFrom separator 0 rest).modifyHead (c :: ·)

/-- `text.split(separator)` for a separator of any length. -/
def splitBy (separator text : List Char) : List (List Char) := splitFrom separator 0 text

example : splitBy "**".toList "a***b**".toList = ["a".toList, "*b".toList, []] := by decide

/-- `separator.join(parts)`. -/
def join (separator : Char) (parts : List String) : String :=
  String.ofList ([separator].intercalate (parts.map String.toList))

section Digits

variable {c : Char}

theorem decimal?_of_isDigit (hc : c.isDigit) : decimal? c = some (c.toNat - '0'.toNat) := by
  have hrange := Char.isDigit_iff_toNat.mp hc
  have hascii : (decide (48 ≤ c.toNat) && decide (c.toNat ≤ 48 + 9)) = true := by
    rw [Bool.and_eq_true, decide_eq_true_eq, decide_eq_true_eq]
    exact hrange
  rw [decimal?, decimalZeros, List.find?_cons, hascii]
  rfl

theorem isnumericChar_of_isDigit (hc : c.isDigit) : isnumericChar c := by
  have hrange := Char.isDigit_iff_toNat.mp hc
  rw [isnumericChar, inRanges, numericRanges, List.any_cons, Bool.or_eq_true, Bool.and_eq_true,
    decide_eq_true_eq, decide_eq_true_eq]
  exact .inl hrange

theorem not_isspaceChar_of_isDigit (hc : c.isDigit) : ¬ isspaceChar c := by
  have hrange : 48 ≤ c.toNat ∧ c.toNat ≤ 57 := Char.isDigit_iff_toNat.mp hc
  simp only [isspaceChar, inRanges, spaceRanges, List.any_cons, List.any_nil, Bool.or_eq_true,
    Bool.and_eq_true, decide_eq_true_eq, Bool.false_eq_true, or_false]
  omega

theorem ne_of_isDigit {d : Char} (hc : c.isDigit) (hd : ¬ d.isDigit) : c ≠ d := by
  rintro rfl
  exact hd hc

end Digits

theorem digits?_of_isDigit : ∀ (text : List Char) (value : Nat), (∀ c ∈ text, c.isDigit) →
    digits? text value = some (Nat.ofDigitChars 10 text value)
  | [], value, _ => by rw [digits?, Nat.ofDigitChars_nil]
  | c :: rest, value, hdigits => by
      have hc : c.isDigit := hdigits c List.mem_cons_self
      have hne : c ≠ '_' := ne_of_isDigit hc (by decide)
      rw [digits?.eq_3 _ _ _ (fun _ _ h _ => hne h), decimal?_of_isDigit hc, Option.bind_some,
        digits?_of_isDigit rest _ fun d hd => hdigits d (List.mem_cons_of_mem _ hd),
        Nat.ofDigitChars_cons]

theorem isDigit_of_mem_repr {n : Nat} : ∀ c ∈ n.repr.toList, c.isDigit := by
  intro c hc
  rw [Nat.toList_repr] at hc
  exact Nat.isDigit_of_mem_toDigits (by decide) (by decide) hc

theorem stripBy_of_not {skipped : Char → Bool} {text : List Char}
    (htext : ∀ c ∈ text, ¬ skipped c) : stripBy skipped text = text := by
  have hdrop : ∀ l : List Char, (∀ c ∈ l, ¬ skipped c) → l.dropWhile skipped = l := by
    intro l hl
    cases l with
    | nil => rfl
    | cons c rest => exact List.dropWhile_cons_of_neg (hl c List.mem_cons_self)
  rw [stripBy, hdrop text htext, hdrop text.reverse fun c hc => htext c (List.mem_reverse.mp hc),
    List.reverse_reverse]

theorem strip_of_not_isspaceChar {text : List Char} (htext : ∀ c ∈ text, ¬ isspaceChar c) :
    strip text = text :=
  stripBy_of_not htext

/-- Nothing is skipped in a text without spaces. -/
theorem stripBy_isIntSpace_of_not {text : List Char} (htext : ∀ c ∈ text, ¬ isspaceChar c) :
    stripBy isIntSpace text = text := by
  apply stripBy_of_not
  intro c hc hskipped
  rw [isIntSpace, Bool.and_eq_true] at hskipped
  exact htext c hc hskipped.1

theorem isnumeric_repr (n : Nat) : isnumeric n.repr := by
  have hne : n.repr ≠ "" := by
    intro hempty
    have hnil := congrArg String.toList hempty
    rw [Nat.toList_repr] at hnil
    exact Nat.toDigits_ne_nil hnil
  simp only [isnumeric, Bool.and_eq_true, decide_eq_true_eq, List.all_eq_true]
  exact ⟨hne, fun c hc => isnumericChar_of_isDigit (isDigit_of_mem_repr c hc)⟩

theorem unsignedInt?_repr (n : Nat) : unsignedInt? n.repr.toList = some n := by
  have hdigits := isDigit_of_mem_repr (n := n)
  have hvalue : Nat.ofDigitChars 10 n.repr.toList 0 = n := by
    rw [Nat.toList_repr, Nat.ofDigitChars_ten_toDigits]
  cases htext : n.repr.toList with
  | nil =>
      rw [Nat.toList_repr] at htext
      exact absurd htext Nat.toDigits_ne_nil
  | cons c rest =>
      rw [htext] at hdigits hvalue
      rw [unsignedInt?, decimal?_of_isDigit (hdigits c List.mem_cons_self), Option.bind_some,
        digits?_of_isDigit rest _ fun d hd => hdigits d (List.mem_cons_of_mem _ hd)]
      rw [Nat.ofDigitChars_cons] at hvalue
      simpa using hvalue

theorem int?_repr (n : Nat) : int? n.repr = some (n : Int) := by
  have hunsigned := unsignedInt?_repr n
  have hsign : ∀ c ∈ n.repr.toList, c ≠ '+' ∧ c ≠ '-' := fun c hc =>
    ⟨ne_of_isDigit (isDigit_of_mem_repr c hc) (by decide),
      ne_of_isDigit (isDigit_of_mem_repr c hc) (by decide)⟩
  have hspace : ∀ c ∈ n.repr.toList, ¬ isspaceChar c := fun c hc =>
    not_isspaceChar_of_isDigit (isDigit_of_mem_repr c hc)
  rw [int?, stripBy_isIntSpace_of_not hspace]
  split
  · next h => exact absurd rfl (hsign '+' (by simp [h])).1
  · next h => exact absurd rfl (hsign '-' (by simp [h])).2
  · rw [hunsigned]
    rfl

/-- A number that is not negative reads back. -/
theorem toString_of_nonneg {number : Int} (h : 0 ≤ number) :
    toString number = number.toNat.repr := by
  rw [Int.toString_eq_repr, Int.repr_eq_if, if_pos h]

theorem isnumeric_toString {number : Int} (h : 0 ≤ number) : isnumeric (toString number) := by
  rw [toString_of_nonneg h]
  exact isnumeric_repr _

theorem int?_toString {number : Int} (h : 0 ≤ number) : int? (toString number) = some number := by
  rw [toString_of_nonneg h, int?_repr, Int.toNat_of_nonneg h]

theorem split_join {separator : Char} {parts : List String} (hne : parts ≠ [])
    (hparts : ∀ part ∈ parts, separator ∉ part.toList) :
    split separator (join separator parts) = parts := by
  have hchars : ([separator].intercalate (parts.map String.toList)).splitOn separator =
      parts.map String.toList := by
    refine List.splitOn_intercalate separator ?_ (by simpa using hne)
    intro chars hchars
    obtain ⟨part, hpart, rfl⟩ := List.mem_map.mp hchars
    exact hparts part hpart
  rw [split, join, String.toList_ofList, hchars, List.map_map]
  exact (List.map_congr_left fun part _ => String.ofList_toList).trans (List.map_id parts)

/-- A text that is joined is split at the separators within its parts, too. -/
theorem split_join_flatMap {separator : Char} {parts : List String} (hne : parts ≠ []) :
    split separator (join separator parts) = parts.flatMap (split separator) := by
  induction parts with
  | nil => exact absurd rfl hne
  | cons part rest ih =>
      cases rest with
      | nil => simp [split, join]
      | cons next rest =>
          have hrest := ih (List.cons_ne_nil next rest)
          rw [split, join, String.toList_ofList] at hrest ⊢
          rw [List.map_cons, List.map_cons, List.intercalate_cons_cons, List.append_assoc,
            List.singleton_append, List.splitOn_append_cons_self, List.map_append, ← List.map_cons,
            hrest]
          rfl

theorem split_of_not_mem {separator : Char} {text : String} (h : separator ∉ text.toList) :
    split separator text = [text] := by
  rw [split, List.splitOn_eq_singleton h, List.map_singleton, String.ofList_toList]

theorem not_mem_of_mem_splitOn {separator : Char} {text : List Char} :
    ∀ part ∈ text.splitOn separator, separator ∉ part := by
  induction text with
  | nil => simp
  | cons c rest ih =>
      rw [List.splitOn_cons_eq_if_modifyHead]
      split
      · exact List.forall_mem_cons.mpr ⟨List.not_mem_nil, ih⟩
      · next hc =>
        obtain ⟨first, others, hsplit⟩ :=
          List.exists_cons_of_ne_nil (List.splitOn_ne_nil separator rest)
        rw [hsplit] at ih ⊢
        obtain ⟨hfirst, hothers⟩ := List.forall_mem_cons.mp ih
        refine List.forall_mem_cons.mpr ⟨fun hmem => ?_, hothers⟩
        obtain rfl | hmem := List.mem_cons.mp hmem
        · exact hc BEq.rfl
        · exact hfirst hmem

/-- No part has a separator. -/
theorem not_mem_of_mem_split {separator : Char} {text part : String}
    (hpart : part ∈ split separator text) : separator ∉ part.toList := by
  obtain ⟨chars, hchars, rfl⟩ := List.mem_map.mp hpart
  rw [String.toList_ofList]
  exact not_mem_of_mem_splitOn chars hchars

section Intercalate

variable {α : Type} (separator opening closing : List α)

theorem intercalate_opening (part : List α) (rest : List (List α)) :
    separator.intercalate ((opening ++ part) :: rest) =
      opening ++ separator.intercalate (part :: rest) := by
  cases rest with
  | nil => simp
  | cons next rest => simp [List.intercalate_cons_cons]

theorem intercalate_cons (part : List α) (rest : List (List α)) :
    separator.intercalate (part :: rest) = part ++ rest.flatMap (separator ++ ·) := by
  induction rest generalizing part with
  | nil => simp
  | cons next rest ih => rw [List.intercalate_cons_cons, ih, List.flatMap_cons, List.append_assoc,
      List.append_assoc]

theorem intercalate_closing (parts : List (List α)) (last : List α) :
    separator.intercalate (parts ++ [last ++ closing]) =
      separator.intercalate (parts ++ [last]) ++ closing := by
  induction parts with
  | nil => simp
  | cons part rest ih =>
      cases rest with
      | nil => simp [List.intercalate_cons_cons]
      | cons next rest =>
          rw [List.cons_append, List.cons_append, List.intercalate_cons_cons, ← List.cons_append, ih]
          simp [List.intercalate_cons_cons]

end Intercalate

theorem join_ne_empty {separator : Char} {first : String} {rest : List String}
    (hfirst : first ≠ "") : join separator (first :: rest) ≠ "" := by
  intro hempty
  have hchars := congrArg String.toList hempty
  cases rest with
  | nil => simp [join, hfirst] at hchars
  | cons second rest => simp [join, List.intercalate_cons_cons] at hchars

theorem mem_join_of_mem {separator c : Char} {parts : List String} {part : String}
    (hpart : part ∈ parts) (hc : c ∈ part.toList) : c ∈ (join separator parts).toList := by
  rw [join, String.toList_ofList]
  induction parts with
  | nil => cases hpart
  | cons first rest ih =>
      cases rest with
      | nil =>
          obtain rfl := List.mem_singleton.mp hpart
          simpa using hc
      | cons next rest =>
          rw [List.map_cons, List.map_cons, List.intercalate_cons_cons, List.mem_append,
            List.mem_append]
          obtain rfl | hpart := List.mem_cons.mp hpart
          · exact .inl (.inl hc)
          · exact .inr (ih hpart)

theorem join_split (separator : Char) (text : String) :
    join separator (split separator text) = text := by
  have hparts : (split separator text).map String.toList = text.toList.splitOn separator := by
    rw [split, List.map_map]
    exact (List.map_congr_left fun _ _ => String.toList_ofList).trans (List.map_id _)
  rw [join, hparts, List.intercalate_splitOn, String.ofList_toList]

theorem split_ne_nil (separator : Char) (text : String) : split separator text ≠ [] := by
  rw [split, Ne, List.map_eq_nil_iff]
  exact List.splitOn_ne_nil _ _

/-- The parts are made of characters of the text. -/
theorem mem_of_mem_split {separator c : Char} {text part : String}
    (hpart : part ∈ split separator text) (hc : c ∈ part.toList) : c ∈ text.toList := by
  have hmem : c ∈ (join separator (split separator text)).toList := mem_join_of_mem hpart hc
  rw [join_split] at hmem
  exact hmem

theorem mem_join {separator c : Char} {parts : List String}
    (hc : c ∈ (join separator parts).toList) :
    c = separator ∨ ∃ part ∈ parts, c ∈ part.toList := by
  rw [join, String.toList_ofList] at hc
  induction parts with
  | nil => simp at hc
  | cons part rest ih =>
      cases rest with
      | nil =>
          refine .inr ⟨part, List.mem_cons_self, ?_⟩
          simpa using hc
      | cons next rest =>
          rw [List.map_cons, List.map_cons, List.intercalate_cons_cons, List.mem_append,
            List.mem_append, List.mem_singleton] at hc
          obtain (hc | hc) | hc := hc
          · exact .inr ⟨part, List.mem_cons_self, hc⟩
          · exact .inl hc
          · obtain hc | ⟨part', hpart', hc⟩ := ih hc
            · exact .inl hc
            · exact .inr ⟨part', List.mem_cons_of_mem _ hpart', hc⟩

/-- A character of a text is the separator or stands in a part. -/
theorem mem_splitOn {separator c : Char} {text : List Char} (hc : c ∈ text) :
    c = separator ∨ ∃ part ∈ text.splitOn separator, c ∈ part := by
  have hjoin : c ∈ (join separator (split separator (String.ofList text))).toList := by
    rwa [join_split, String.toList_ofList]
  obtain heq | ⟨part, hpart, hmem⟩ := mem_join hjoin
  · exact .inl heq
  · obtain ⟨chars, hchars, rfl⟩ := List.mem_map.mp hpart
    rw [String.toList_ofList] at hchars hmem
    exact .inr ⟨chars, hchars, hmem⟩

/-- Every part is changed, and the separators between them are replaced. -/
def mapParts (separator replacement : List Char) (f : List Char → List Char) (text : List Char) :
    List Char :=
  replacement.intercalate ((splitBy separator text).map f)

section Parts

variable {separator replacement : List Char} {f : List Char → List Char} {text rest : List Char}
  {c : Char}

theorem splitFrom_ne_nil (separator : List Char) (skip : Nat) (text : List Char) :
    splitFrom separator skip text ≠ [] := by
  induction text generalizing skip with
  | nil => simp [splitFrom]
  | cons c rest ih =>
      cases skip with
      | zero =>
          rw [splitFrom]
          split
          · exact List.cons_ne_nil _ _
          · simpa using ih 0
      | succ skip => exact ih skip

theorem splitFrom_append (separator skipped rest : List Char) :
    splitFrom separator skipped.length (skipped ++ rest) = splitFrom separator 0 rest := by
  induction skipped with
  | nil => rfl
  | cons c skipped ih => exact ih

theorem splitBy_append (hne : separator ≠ []) (rest : List Char) :
    splitBy separator (separator ++ rest) = [] :: splitBy separator rest := by
  obtain ⟨c, tail, rfl⟩ := List.exists_cons_of_ne_nil hne
  have hfound : (c :: tail).isPrefixOf (c :: (tail ++ rest)) = true := by
    rw [List.isPrefixOf_iff_prefix]
    exact List.prefix_append (c :: tail) rest
  rw [splitBy, List.cons_append, splitFrom, if_pos hfound]
  exact congrArg _ (splitFrom_append _ tail rest)

theorem splitBy_cons (h : ¬ separator <+: c :: rest) :
    splitBy separator (c :: rest) = (splitBy separator rest).modifyHead (c :: ·) := by
  rw [← List.isPrefixOf_iff_prefix] at h
  rw [splitBy, splitFrom, if_neg h]
  rfl

theorem mem_of_mem_splitFrom {skip : Nat} {part : List Char}
    (hpart : part ∈ splitFrom separator skip text) : ∀ d ∈ part, d ∈ text := by
  induction text generalizing skip part with
  | nil =>
      obtain rfl := List.mem_singleton.mp (show part ∈ [[]] by cases skip <;> exact hpart)
      simp
  | cons c rest ih =>
      cases skip with
      | succ skip => exact fun d hd => List.mem_cons_of_mem _ (ih hpart d hd)
      | zero =>
          rw [splitFrom] at hpart
          split at hpart
          · obtain rfl | hpart := List.mem_cons.mp hpart
            · simp
            · exact fun d hd => List.mem_cons_of_mem _ (ih hpart d hd)
          · cases hsplit : splitFrom separator 0 rest with
            | nil => exact absurd hsplit (splitFrom_ne_nil _ _ _)
            | cons first others =>
                have hrest : ∀ part ∈ first :: others, ∀ d ∈ part, d ∈ rest := by
                  intro part hpart
                  rw [← hsplit] at hpart
                  exact ih hpart
                rw [hsplit, List.modifyHead_cons] at hpart
                intro d hd
                obtain rfl | hpart := List.mem_cons.mp hpart
                · obtain rfl | hd := List.mem_cons.mp hd
                  · exact List.mem_cons_self
                  · exact List.mem_cons_of_mem _ (hrest first List.mem_cons_self d hd)
                · exact List.mem_cons_of_mem _
                    (hrest part (List.mem_cons_of_mem _ hpart) d hd)

/-- The first part is what the text begins with. -/
theorem prefix_of_splitFrom {first : List Char} {others : List (List Char)}
    (h : splitFrom separator 0 text = first :: others) : first <+: text := by
  induction text generalizing first others with
  | nil =>
      obtain rfl := (List.cons.inj h).1
      exact List.nil_prefix
  | cons c rest ih =>
      rw [splitFrom] at h
      split at h
      · obtain rfl := (List.cons.inj h).1
        exact List.nil_prefix
      · cases hsplit : splitFrom separator 0 rest with
        | nil => exact absurd hsplit (splitFrom_ne_nil _ _ _)
        | cons first' others' =>
            rw [hsplit, List.modifyHead_cons] at h
            obtain rfl := (List.cons.inj h).1
            exact List.cons_prefix_cons.mpr ⟨rfl, ih hsplit⟩

theorem mapParts_separator (hne : separator ≠ []) (hf : f [] = []) :
    mapParts separator replacement f (separator ++ rest) =
      replacement ++ mapParts separator replacement f rest := by
  cases hsplit : splitBy separator rest with
  | nil => exact absurd hsplit (splitFrom_ne_nil _ _ _)
  | cons first others =>
      rw [mapParts, mapParts, splitBy_append hne, hsplit]
      simp [List.intercalate_cons_cons, hf]

/-- What stands before the next separator belongs to the first part. -/
theorem mapParts_begin {opening output : List Char}
    (hsplit : splitBy separator (opening ++ rest) =
      (splitBy separator rest).modifyHead (opening ++ ·))
    (hf : ∀ first, first <+: rest → f (opening ++ first) = output ++ f first) :
    mapParts separator replacement f (opening ++ rest) =
      output ++ mapParts separator replacement f rest := by
  cases hrest : splitBy separator rest with
  | nil => exact absurd hrest (splitFrom_ne_nil _ _ _)
  | cons first others =>
      have hfirst := hf first (prefix_of_splitFrom hrest)
      rw [mapParts, mapParts, hsplit, hrest, List.modifyHead_cons]
      cases others with
      | nil => simp [hfirst]
      | cons next others => simp [List.intercalate_cons_cons, hfirst]

theorem mapParts_cons (h : ¬ separator <+: c :: rest) {output : List Char}
    (hf : ∀ first, first <+: rest → f (c :: first) = output ++ f first) :
    mapParts separator replacement f (c :: rest) =
      output ++ mapParts separator replacement f rest :=
  @mapParts_begin separator replacement f rest [c] output (splitBy_cons h) hf

theorem intercalate_splitFrom (hne : separator ≠ []) (skip : Nat) (text : List Char) :
    separator.intercalate (splitFrom separator skip text) = text.drop skip := by
  induction text generalizing skip with
  | nil => cases skip <;> simp [splitFrom]
  | cons c rest ih =>
      cases skip with
      | succ skip => simpa [splitFrom] using ih skip
      | zero =>
          rw [splitFrom]
          split
          · next hfound =>
              obtain ⟨tail, htail⟩ := List.isPrefixOf_iff_prefix.mp hfound
              obtain ⟨first, others, hsplit⟩ := List.exists_cons_of_ne_nil
                (splitFrom_ne_nil separator (separator.length - 1) rest)
              have hrest := ih (separator.length - 1)
              obtain ⟨d, separator, rfl⟩ := List.exists_cons_of_ne_nil hne
              obtain ⟨rfl, rfl⟩ := List.cons.inj htail
              rw [hsplit] at hrest ⊢
              rw [List.intercalate_cons_cons, hrest]
              simp
          · obtain ⟨first, others, hsplit⟩ :=
              List.exists_cons_of_ne_nil (splitFrom_ne_nil separator 0 rest)
            have hrest := ih 0
            rw [hsplit] at hrest ⊢
            rw [List.modifyHead_cons, ← List.singleton_append (l := first), intercalate_opening, hrest]
            rfl

/-- The parts make the text again. -/
theorem intercalate_splitBy (hne : separator ≠ []) (text : List Char) :
    separator.intercalate (splitBy separator text) = text := intercalate_splitFrom hne 0 text

theorem not_infix_of_mem_splitFrom (hne : separator ≠ []) {skip : Nat} {part : List Char}
    (hpart : part ∈ splitFrom separator skip text) : ¬ separator <:+: part := by
  induction text generalizing skip part with
  | nil =>
      obtain rfl := List.mem_singleton.mp (show part ∈ [[]] by cases skip <;> exact hpart)
      simpa using hne
  | cons c rest ih =>
      cases skip with
      | succ skip => exact ih hpart
      | zero =>
          rw [splitFrom] at hpart
          split at hpart
          · obtain rfl | hpart := List.mem_cons.mp hpart
            · simpa using hne
            · exact ih hpart
          · next hfound =>
            obtain ⟨first, others, hsplit⟩ :=
              List.exists_cons_of_ne_nil (splitFrom_ne_nil separator 0 rest)
            have hrest : ∀ part ∈ first :: others, ¬ separator <:+: part := by
              intro part hpart
              rw [← hsplit] at hpart
              exact ih hpart
            rw [hsplit, List.modifyHead_cons] at hpart
            obtain rfl | hpart := List.mem_cons.mp hpart
            · intro hcontained
              obtain hbegins | hcontained := List.infix_cons_iff.mp hcontained
              · apply hfound
                rw [List.isPrefixOf_iff_prefix]
                exact hbegins.trans (List.cons_prefix_cons.mpr ⟨rfl, prefix_of_splitFrom hsplit⟩)
              · exact hrest first List.mem_cons_self hcontained
            · exact hrest part (List.mem_cons_of_mem _ hpart)

/-- No part has an occurrence of the separator. -/
theorem not_infix_of_mem_splitBy (hne : separator ≠ []) {part : List Char}
    (hpart : part ∈ splitBy separator text) : ¬ separator <:+: part :=
  not_infix_of_mem_splitFrom hne hpart

theorem splitBy_of_not_infix (h : ¬ separator <:+: text) : splitBy separator text = [text] := by
  induction text with
  | nil => rfl
  | cons c rest ih =>
      rw [splitBy_cons fun hbegins => h hbegins.isInfix, ih fun hcontained => h ?_]
      · rfl
      · exact hcontained.trans (List.suffix_cons c rest).isInfix

/-- Two occurrences of the text never overlap. -/
def BorderFree (separator : List Char) : Prop :=
  ∀ n < separator.length, 0 < n → ¬ separator.drop n <+: separator

instance : Decidable (BorderFree separator) :=
  inferInstanceAs (Decidable (∀ n < separator.length, 0 < n → ¬ separator.drop n <+: separator))

/-- An occurrence that begins in a text ends in it or is cut off by the end of the text. -/
theorem BorderFree.prefix_append (hborder : BorderFree separator) (hne : text ≠ [])
    (h : separator <+: text ++ (separator ++ rest)) : separator <+: text := by
  obtain hbegins | ⟨tail, htail⟩ :=
    List.prefix_or_prefix_of_prefix h (List.prefix_append text (separator ++ rest))
  · exact hbegins
  · by_contra hnot
    have hcut : tail <+: separator ++ rest := by
      have hlonger : text ++ tail <+: text ++ (separator ++ rest) := by rwa [htail]
      exact (List.prefix_append_right_inj text).mp hlonger
    have htail' : tail ≠ [] := by
      rintro rfl
      rw [List.append_nil] at htail
      exact hnot (htail ▸ List.prefix_rfl)
    have hlength : text.length + tail.length = separator.length := by
      rw [← List.length_append, htail]
    refine hborder text.length ?_ (List.length_pos_iff.mpr hne) ?_
    · have hpos := List.length_pos_iff.mpr htail'
      omega
    · rw [← htail, List.drop_left, htail]
      exact List.prefix_of_prefix_length_le hcut (List.prefix_append _ _) (by omega)

theorem splitFrom_append_separator (hne : separator ≠ []) (hborder : BorderFree separator)
    {skip : Nat} {front : List Char} (hskip : skip ≤ front.length) :
    splitFrom separator skip (front ++ (separator ++ rest)) =
      splitFrom separator skip front ++ splitBy separator rest := by
  induction front generalizing skip with
  | nil =>
      obtain rfl : skip = 0 := Nat.le_zero.mp hskip
      exact splitBy_append hne rest
  | cons c front ih =>
      cases skip with
      | succ skip => exact ih (Nat.le_of_succ_le_succ hskip)
      | zero =>
          rw [List.cons_append, splitFrom, splitFrom]
          by_cases hfound : separator <+: c :: front
          · have hlonger : separator <+: c :: (front ++ (separator ++ rest)) :=
              hfound.trans (List.prefix_append _ _)
            have hlength := hfound.length_le
            rw [if_pos (List.isPrefixOf_iff_prefix.mpr hlonger),
              if_pos (List.isPrefixOf_iff_prefix.mpr hfound),
              ih (by rw [List.length_cons] at hlength; omega), List.cons_append]
          · have hlonger : ¬ separator <+: c :: (front ++ (separator ++ rest)) := fun h =>
              hfound (hborder.prefix_append (List.cons_ne_nil c front) h)
            rw [if_neg (mt List.isPrefixOf_iff_prefix.mp hlonger),
              if_neg (mt List.isPrefixOf_iff_prefix.mp hfound), ih (Nat.zero_le _)]
            obtain ⟨first, others, hsplit⟩ :=
              List.exists_cons_of_ne_nil (splitFrom_ne_nil separator 0 front)
            rw [hsplit]
            rfl

/-- A separator that stands in the text divides the parts before it from the parts after it. -/
theorem splitBy_append_separator (hne : separator ≠ []) (hborder : BorderFree separator)
    (front rest : List Char) :
    splitBy separator (front ++ (separator ++ rest)) =
      splitBy separator front ++ splitBy separator rest :=
  splitFrom_append_separator hne hborder (Nat.zero_le _)

/-- Parts without a separator are what their join is split into. -/
theorem splitBy_intercalate (hne : separator ≠ []) (hborder : BorderFree separator)
    {parts : List (List Char)} (hparts : parts ≠ [])
    (hfree : ∀ part ∈ parts, ¬ separator <:+: part) :
    splitBy separator (separator.intercalate parts) = parts := by
  induction parts with
  | nil => exact absurd rfl hparts
  | cons part rest ih =>
      obtain ⟨hpart, hrest⟩ := List.forall_mem_cons.mp hfree
      cases rest with
      | nil => rw [List.intercalate_singleton, splitBy_of_not_infix hpart]
      | cons next rest =>
          rw [List.intercalate_cons_cons, List.append_assoc,
            splitBy_append_separator hne hborder, splitBy_of_not_infix hpart,
            ih (List.cons_ne_nil _ _) hrest, List.singleton_append]

end Parts

/-- Every character is a decimal digit, and read from left to right they make the number. -/
def Denotes (text : String) (number : Nat) : Prop :=
  ∃ digits : List Nat, text.toList.map decimal? = digits.map some ∧
    number = Nat.ofDigits 10 digits.reverse

/-- `int(text)` where `sys.get_int_max_str_digits()` is `limit`; zero is no limit. -/
def intWithin? (limit : Nat) (text : String) : Option Int :=
  if limit ≠ 0 ∧ limit < text.toList.countP (fun c => (decimal? c).isSome) then none
  else int? text

/-- The text is short enough and all its characters are decimal digits. -/
def Convertible (limit : Nat) (text : String) : Prop :=
  (∀ c ∈ text.toList, (decimal? c).isSome) ∧ (limit = 0 ∨ text.length ≤ limit)

theorem intWithin?_zero (text : String) : intWithin? 0 text = int? text := if_neg fun h => h.1 rfl

section Numeric

/-- No code point is numeric and a space. -/
theorem numericRanges_disjoint : ∀ numeric ∈ numericRanges, ∀ space ∈ spaceRanges,
    numeric.2 < space.1 ∨ space.2 < numeric.1 := by
  decide +kernel

/-- The underscore and the two signs are not numeric. -/
theorem not_isnumericChar : isnumericChar '_' = false ∧ isnumericChar '+' = false ∧
    isnumericChar '-' = false := by
  decide +kernel

variable {c : Char}

theorem not_isspaceChar_of_isnumericChar (hc : isnumericChar c) : ¬ isspaceChar c := by
  intro hspace
  obtain ⟨numeric, hnumeric, hin⟩ := List.any_eq_true.mp hc
  obtain ⟨space, hspace, hin'⟩ := List.any_eq_true.mp hspace
  rw [Bool.and_eq_true, decide_eq_true_eq, decide_eq_true_eq] at hin hin'
  have hdisjoint := numericRanges_disjoint numeric hnumeric space hspace
  omega

theorem digits?_eq_some {text : List Char} {value number : Nat} (htext : ∀ c ∈ text, c ≠ '_') :
    digits? text value = some number ↔ ∃ digits : List Nat,
      text.map decimal? = digits.map some ∧
        number = Nat.ofDigits 10 digits.reverse + 10 ^ digits.length * value := by
  induction text generalizing value with
  | nil =>
      simp only [digits?, Option.some.injEq, List.map_nil]
      constructor
      · rintro rfl
        exact ⟨[], rfl, by simp⟩
      · rintro ⟨digits, hdigits, hnumber⟩
        obtain rfl : digits = [] := by simpa using hdigits.symm
        simpa using hnumber.symm
  | cons c rest ih =>
      have hrest : ∀ d ∈ rest, d ≠ '_' := fun d hd => htext d (List.mem_cons_of_mem _ hd)
      rw [digits?.eq_3 _ _ _ fun _ _ h _ => htext c List.mem_cons_self h, Option.bind_eq_some_iff]
      constructor
      · rintro ⟨digit, hdigit, hread⟩
        obtain ⟨digits, hdigits, hnumber⟩ := (ih hrest).mp hread
        refine ⟨digit :: digits, by simp [hdigit, hdigits], ?_⟩
        calc
          number = Nat.ofDigits 10 digits.reverse + 10 ^ digits.length * (10 * value + digit) :=
            hnumber
          _ = Nat.ofDigits 10 (digit :: digits).reverse +
              10 ^ (digit :: digits).length * value := by
            rw [List.reverse_cons, Nat.ofDigits_append, Nat.ofDigits_singleton,
              List.length_reverse, List.length_cons, pow_succ]
            ring
      · rintro ⟨digits, hdigits, hnumber⟩
        cases digits with
        | nil => simp at hdigits
        | cons digit digits =>
            simp only [List.map_cons, List.cons.injEq] at hdigits
            refine ⟨digit, hdigits.1, (ih hrest).mpr ⟨digits, hdigits.2, ?_⟩⟩
            rw [hnumber, List.reverse_cons, Nat.ofDigits_append, Nat.ofDigits_singleton,
              List.length_reverse, List.length_cons, pow_succ]
            ring

theorem unsignedInt?_eq_some {text : List Char} {number : Nat} (hne : text ≠ [])
    (htext : ∀ c ∈ text, c ≠ '_') :
    unsignedInt? text = some number ↔ ∃ digits : List Nat,
      text.map decimal? = digits.map some ∧ number = Nat.ofDigits 10 digits.reverse := by
  cases text with
  | nil => exact absurd rfl hne
  | cons c rest =>
      have hstart : unsignedInt? (c :: rest) = digits? (c :: rest) 0 := by
        rw [digits?.eq_3 _ _ _ fun _ _ h _ => htext c List.mem_cons_self h]
        simp only [unsignedInt?, Nat.mul_zero, Nat.zero_add]
      rw [hstart, digits?_eq_some htext]
      simp only [Nat.mul_zero, Nat.add_zero]

variable {text : String} (hnumeric : isnumeric text = true)

include hnumeric

theorem isnumeric_spec : text.toList ≠ [] ∧ ∀ c ∈ text.toList, isnumericChar c := by
  simp only [isnumeric, Bool.and_eq_true, decide_eq_true_eq, List.all_eq_true] at hnumeric
  refine ⟨fun hnil => hnumeric.1 ?_, hnumeric.2⟩
  rw [← String.ofList_toList (s := text), hnil]

/-- A numeric text is converted exactly if it is a decimal number of some script. -/
theorem int?_eq_some_iff {number : Int} :
    int? text = some number ↔ ∃ value : Nat, number = value ∧ Denotes text value := by
  obtain ⟨hne, hchars⟩ := isnumeric_spec hnumeric
  obtain ⟨hunderscore, hplus, hminus⟩ := not_isnumericChar
  have hread : int? text = (unsignedInt? text.toList).map Int.ofNat := by
    have hspace : ∀ c ∈ text.toList, ¬ isspaceChar c := fun c hc =>
      not_isspaceChar_of_isnumericChar (hchars c hc)
    rw [int?, stripBy_isIntSpace_of_not hspace]
    split
    · next rest htext =>
        have hsign := hchars '+' (by simp [htext])
        rw [hplus] at hsign
        cases hsign
    · next rest htext =>
        have hsign := hchars '-' (by simp [htext])
        rw [hminus] at hsign
        cases hsign
    · rfl
  have hother : ∀ c ∈ text.toList, c ≠ '_' := by
    rintro c hc rfl
    have h := hchars '_' hc
    rw [hunderscore] at h
    cases h
  rw [hread, Option.map_eq_some_iff]
  constructor
  · rintro ⟨value, hvalue, rfl⟩
    exact ⟨value, rfl, (unsignedInt?_eq_some hne hother).mp hvalue⟩
  · rintro ⟨value, rfl, hvalue⟩
    exact ⟨value, (unsignedInt?_eq_some hne hother).mpr hvalue, rfl⟩

end Numeric

theorem exists_denotes {text : String} (hdigits : ∀ c ∈ text.toList, (decimal? c).isSome) :
    ∃ value, Denotes text value := by
  have hread : ∀ chars : List Char, (∀ c ∈ chars, (decimal? c).isSome) →
      ∃ digits : List Nat, chars.map decimal? = digits.map some := by
    intro chars
    induction chars with
    | nil => exact fun _ => ⟨[], rfl⟩
    | cons c rest ih =>
        intro h
        obtain ⟨digit, hdigit⟩ := Option.isSome_iff_exists.mp (h c List.mem_cons_self)
        obtain ⟨digits, hrest⟩ := ih fun d hd => h d (List.mem_cons_of_mem _ hd)
        exact ⟨digit :: digits, by simp [hdigit, hrest]⟩
  obtain ⟨digits, hdigits⟩ := hread text.toList hdigits
  exact ⟨_, digits, hdigits, rfl⟩

theorem Denotes.isSome {text : String} {value : Nat} (h : Denotes text value) :
    ∀ c ∈ text.toList, (decimal? c).isSome := by
  obtain ⟨digits, hdigits, -⟩ := h
  intro c hc
  have hmem : decimal? c ∈ digits.map some := by
    rw [← hdigits]
    exact List.mem_map_of_mem hc
  obtain ⟨digit, -, hdigit⟩ := List.mem_map.mp hmem
  rw [← hdigit]
  rfl

/-- The conversion under a limit. -/
theorem intWithin?_eq_some_iff {limit : Nat} {text : String} (hnumeric : isnumeric text = true)
    {number : Int} : intWithin? limit text = some number ↔
      Convertible limit text ∧ ∃ value : Nat, number = value ∧ Denotes text value := by
  have hcount : (∀ c ∈ text.toList, (decimal? c).isSome) →
      text.toList.countP (fun c => (decimal? c).isSome) = text.length := by
    intro hdigits
    rw [List.countP_eq_length.mpr hdigits, String.length_toList]
  rw [intWithin?]
  split
  · next hlong =>
      constructor
      · rintro ⟨⟩
      · rintro ⟨⟨hdigits, hshort⟩, -⟩
        rw [hcount hdigits] at hlong
        omega
  · next hshort =>
      rw [int?_eq_some_iff hnumeric]
      constructor
      · rintro ⟨value, hnumber, hdenotes⟩
        have hdigits := hdenotes.isSome
        rw [hcount hdigits] at hshort
        exact ⟨⟨hdigits, by omega⟩, value, hnumber, hdenotes⟩
      · rintro ⟨-, h⟩
        exact h

section Strip

variable {text : List Char} {c : Char}

theorem strip_eq_rdropWhile (text : List Char) :
    strip text = (text.dropWhile isspaceChar).rdropWhile isspaceChar := rfl

theorem strip_isPrefix (text : List Char) : strip text <+: text.dropWhile isspaceChar := by
  rw [strip_eq_rdropWhile]
  exact List.rdropWhile_prefix _ _

theorem mem_of_mem_strip (h : c ∈ strip text) : c ∈ text :=
  (List.dropWhile_sublist _).subset ((strip_isPrefix text).subset h)

/-- Stripped text begins with the first character that is not a blank. -/
theorem head?_strip : (strip text).head? = (text.dropWhile isspaceChar).head? := by
  rw [strip_eq_rdropWhile]
  cases hdrop : text.dropWhile isspaceChar with
  | nil => rfl
  | cons first rest =>
      have hfirst : ¬ isspaceChar first := by
        have hhead := List.head?_dropWhile_not isspaceChar text
        rw [hdrop] at hhead
        simpa using hhead
      have hne : (first :: rest).rdropWhile isspaceChar ≠ [] := by
        rw [Ne, List.rdropWhile_eq_nil_iff]
        exact fun hall => hfirst (hall first List.mem_cons_self)
      obtain ⟨others, hothers⟩ := List.rdropWhile_prefix isspaceChar (first :: rest)
      obtain ⟨head, tail, hcons⟩ := List.exists_cons_of_ne_nil hne
      rw [hcons, List.cons_append, List.cons.injEq] at hothers
      rw [hcons, hothers.1]
      rfl

theorem not_isspaceChar_of_head?_strip (h : (strip text).head? = some c) : ¬ isspaceChar c := by
  have hhead := List.head?_dropWhile_not isspaceChar text
  rw [← head?_strip, h] at hhead
  simpa using hhead

theorem head?_strip_of_not_isspaceChar (h : text.head? = some c) (hc : ¬ isspaceChar c) :
    (strip text).head? = some c := by
  rw [head?_strip]
  cases text with
  | nil => cases h
  | cons first rest =>
      obtain rfl : first = c := Option.some.inj h
      rw [List.dropWhile_cons_of_neg hc]
      rfl

/-- Text that has no blank at its ends. -/
theorem strip_of_ends {last : Char} (hhead : text.head? = some c) (hlast : text.getLast? = some last)
    (hc : ¬ isspaceChar c) (hspace : ¬ isspaceChar last) : strip text = text := by
  obtain ⟨rest, rfl⟩ := List.head?_eq_some_iff.mp hhead
  rw [strip_eq_rdropWhile, List.dropWhile_cons_of_neg hc, List.rdropWhile_eq_self_iff]
  intro hne
  rw [List.getLast?_eq_some_getLast hne] at hlast
  rwa [Option.some.inj hlast]

theorem strip_strip (text : List Char) : strip (strip text) = strip text := by
  have hhead : (strip text).dropWhile isspaceChar = strip text := by
    cases htext : strip text with
    | nil => rfl
    | cons first rest =>
        have hfirst : ¬ isspaceChar first := not_isspaceChar_of_head?_strip (by rw [htext]; rfl)
        exact List.dropWhile_cons_of_neg hfirst
  rw [strip_eq_rdropWhile, hhead, strip_eq_rdropWhile, List.rdropWhile_idempotent]

end Strip

theorem ne_of_not_mem {c : Char} {text : List Char} (h : c ∉ text) :
    ∀ d ∈ text, decide (d ≠ c) = true := by
  intro d hd
  rw [decide_eq_true_iff]
  rintro rfl
  exact h hd

/-- What stands in front of a character that ends the search from the end is not seen. -/
theorem rtakeWhile_append {p : Char → Bool} {front : List Char}
    (hfront : ∀ last, front.getLast? = some last → p last = false) (back : List Char) :
    (front ++ back).rtakeWhile p = back.rtakeWhile p := by
  have hstop : front.reverse.takeWhile p = [] := by
    cases hcons : front.reverse with
    | nil => rfl
    | cons last rest =>
        have hlast : p last = false := hfront last (by rw [← List.head?_reverse, hcons, List.head?_cons])
        exact List.takeWhile_cons_of_neg (by rw [hlast]; exact Bool.false_ne_true)
  rw [List.rtakeWhile, List.rtakeWhile, List.reverse_append, List.takeWhile_append]
  split
  · next hall =>
    have hself := (List.takeWhile_prefix (l := back.reverse) p).eq_of_length hall
    rw [hstop, List.append_nil, hself]
  · rfl

theorem rtakeWhile_append_cons {p : Char → Bool} {c : Char} (hc : p c = false)
    (front back : List Char) : (front ++ c :: back).rtakeWhile p = back.rtakeWhile p := by
  have hlast : ∀ last, (front ++ [c]).getLast? = some last → p last = false := by
    intro last hlast
    rw [List.getLast?_concat, Option.some.injEq] at hlast
    rw [← hlast, hc]
  rw [← rtakeWhile_append hlast back, List.append_assoc, List.singleton_append]

/-- What holds of the 128 characters of ASCII one by one. -/
theorem forall_ascii {P : Char → Prop} (h : ∀ n < 128, P (Char.ofNat n)) {c : Char}
    (hc : c.toNat < 128) : P c := by
  have hn := h c.toNat hc
  rwa [Char.ofNat_toNat] at hn

/-- `text.find(needle)`; `none` where it is -1. -/
def find? (needle : List Char) : List Char → Option Nat
  | [] => if needle = [] then some 0 else none
  | c :: rest => if needle.isPrefixOf (c :: rest) then some 0 else (find? needle rest).map (· + 1)

/-- `needle in text`. -/
def isIn (needle text : List Char) : Bool := (find? needle text).isSome

section Find

variable {needle text rest front : List Char}

theorem find?_of_isPrefix (h : needle <+: text) : find? needle text = some 0 := by
  cases text with
  | nil => rw [find?, if_pos (List.prefix_nil.mp h)]
  | cons c rest => rw [find?, if_pos (List.isPrefixOf_iff_prefix.mpr h)]

theorem find?_eq_none_iff : find? needle text = none ↔ ¬ needle <:+: text := by
  induction text with
  | nil => simp [find?]
  | cons c rest ih =>
      rw [find?, List.infix_cons_iff, not_or, ← ih]
      by_cases hbegins : needle <+: c :: rest
      · simp [hbegins]
      · simp [hbegins]

theorem isIn_eq_false (h : ¬ needle <:+: text) : isIn needle text = false := by
  rw [isIn, find?_eq_none_iff.mpr h]
  rfl

theorem find?_length_le {found : Nat} (h : find? needle text = some found) :
    found + needle.length ≤ text.length := by
  induction text generalizing found with
  | nil =>
      rw [find?] at h
      split at h
      · next hnil =>
        obtain rfl := Option.some.inj h
        simp [hnil]
      · cases h
  | cons c rest ih =>
      rw [find?] at h
      split at h
      · next hbegins =>
        obtain rfl := Option.some.inj h
        rw [Nat.zero_add]
        exact (List.isPrefixOf_iff_prefix.mp hbegins).length_le
      · obtain ⟨found, hrest, rfl⟩ := Option.map_eq_some_iff.mp h
        have hle := ih hrest
        rw [List.length_cons]
        omega

/-- Nothing begins before the rest. -/
theorem find?_append (h : ∀ n < front.length, ¬ needle <+: front.drop n ++ rest) :
    find? needle (front ++ rest) = (find? needle rest).map (· + front.length) := by
  induction front with
  | nil => simp
  | cons c front ih =>
      have hhere : ¬ needle <+: c :: (front ++ rest) := h 0 (Nat.succ_pos _)
      have hlater : ∀ n < front.length, ¬ needle <+: front.drop n ++ rest := fun n hn =>
        h (n + 1) (Nat.succ_lt_succ hn)
      rw [List.cons_append, find?, if_neg (mt List.isPrefixOf_iff_prefix.mp hhere), ih hlater,
        Option.map_map]
      rfl

end Find

end Text
