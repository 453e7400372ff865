import Mathlib.Data.List.Basic

/-!
# Base64

The standard alphabet with padding. The decoder is the lenient one of `binascii.a2b_base64`: it skips
characters outside the alphabet, stops at the padding that completes a quad, and fails only when the
text ends inside a quad.
-/

namespace Base64

/-- The character of a six-bit value. -/
def sextetChar (value : Nat) : Char :=
  if value < 26 then Char.ofNat (value + 65)
  else if value < 52 then Char.ofNat (value + 71)
  else if value < 62 then Char.ofNat (value - 4)
  else if value = 62 then '+'
  else '/'

def sextetValue (c : Char) : Option Nat :=
  if 65 ≤ c.toNat ∧ c.toNat ≤ 90 then some (c.toNat - 65)
  else if 97 ≤ c.toNat ∧ c.toNat ≤ 122 then some (c.toNat - 71)
  else if 48 ≤ c.toNat ∧ c.toNat ≤ 57 then some (c.toNat + 4)
  else if c = '+' then some 62
  else if c = '/' then some 63
  else none

def encode : List UInt8 → List Char
  | [] => []
  | [x] =>
      [sextetChar (x.toNat / 4), sextetChar (x.toNat % 4 * 16), '=', '=']
  | [x, y] =>
      [sextetChar (x.toNat / 4), sextetChar (x.toNat % 4 * 16 + y.toNat / 16),
        sextetChar (y.toNat % 16 * 4), '=']
  | x :: y :: z :: rest =>
      sextetChar (x.toNat / 4) :: sextetChar (x.toNat % 4 * 16 + y.toNat / 16) ::
        sextetChar (y.toNat % 16 * 4 + z.toNat / 64) :: sextetChar (z.toNat % 64) :: encode rest

/-- How `binascii.a2b_base64` fails. -/
inductive Error where
  | invalidLength
  | incorrectPadding
  deriving DecidableEq, Repr

/-- The decoding loop: the position in the current quad, the bits left over from the last character,
and the padding characters seen since. -/
def decodeFrom : List Char → Nat → Nat → Nat → Except Error (List UInt8)
  | [], quadPos, _, _ =>
      if quadPos = 0 then .ok []
      else if quadPos = 1 then .error .invalidLength
      else .error .incorrectPadding
  | c :: rest, quadPos, leftchar, pads =>
      if c = '=' then
        if 2 ≤ quadPos then
          if 4 ≤ quadPos + (pads + 1) then .ok []
          else decodeFrom rest quadPos leftchar (pads + 1)
        else decodeFrom rest quadPos leftchar pads
      else
        match sextetValue c with
        | none => decodeFrom rest quadPos leftchar pads
        | some value =>
            match quadPos with
            | 0 => decodeFrom rest 1 value 0
            | 1 => (decodeFrom rest 2 (value % 16) 0).map
                (UInt8.ofNat (leftchar * 4 + value / 16) :: ·)
            | 2 => (decodeFrom rest 3 (value % 4) 0).map
                (UInt8.ofNat (leftchar * 16 + value / 4) :: ·)
            | _ => (decodeFrom rest 0 0 0).map (UInt8.ofNat (leftchar * 64 + value) :: ·)

def decode (text : List Char) : Except Error (List UInt8) := decodeFrom text 0 0 0

/-- The characters that are not skipped. -/
def dataCharacters (text : List Char) : Nat := text.countP fun c => (sextetValue c).isSome

theorem sextetValue_sextetChar {value : Nat} (hvalue : value < 64) :
    sextetValue (sextetChar value) = some value := by
  have hall : ∀ value < 64, sextetValue (sextetChar value) = some value := by decide
  exact hall value hvalue

theorem sextetChar_ne_pad (value : Nat) : sextetChar value ≠ '=' := by
  by_cases hvalue : value < 64
  · have hall : ∀ value < 64, sextetChar value ≠ '=' := by decide
    exact hall value hvalue
  · unfold sextetChar
    rw [if_neg (by omega), if_neg (by omega), if_neg (by omega), if_neg (by omega)]
    decide

/-- The punctuation that headers use around encoded fields is outside the encoder's output. -/
def IsCode (c : Char) : Prop := c = '=' ∨ (sextetValue c).isSome

instance (c : Char) : Decidable (IsCode c) := inferInstanceAs (Decidable (_ ∨ _))

theorem isCode_sextetChar {value : Nat} (hvalue : value < 64) : IsCode (sextetChar value) :=
  Or.inr (by rw [sextetValue_sextetChar hvalue]; rfl)

theorem isCode_of_mem_encode : ∀ (bytes : List UInt8), ∀ c ∈ encode bytes, IsCode c
  | [] => by simp [encode]
  | [x] => by
      have hx := x.toNat_lt
      intro c hc
      simp only [encode, List.mem_cons, List.not_mem_nil, or_false] at hc
      rcases hc with rfl | rfl | rfl | rfl
      · exact isCode_sextetChar (by omega)
      · exact isCode_sextetChar (by omega)
      all_goals exact Or.inl rfl
  | [x, y] => by
      have hx := x.toNat_lt
      have hy := y.toNat_lt
      intro c hc
      simp only [encode, List.mem_cons, List.not_mem_nil, or_false] at hc
      rcases hc with rfl | rfl | rfl | rfl
      · exact isCode_sextetChar (by omega)
      · exact isCode_sextetChar (by omega)
      · exact isCode_sextetChar (by omega)
      · exact Or.inl rfl
  | x :: y :: z :: rest => by
      have hx := x.toNat_lt
      have hy := y.toNat_lt
      have hz := z.toNat_lt
      intro c hc
      simp only [encode, List.mem_cons] at hc
      rcases hc with rfl | rfl | rfl | rfl | hc
      · exact isCode_sextetChar (by omega)
      · exact isCode_sextetChar (by omega)
      · exact isCode_sextetChar (by omega)
      · exact isCode_sextetChar (by omega)
      · exact isCode_of_mem_encode rest c hc

theorem not_mem_encode {c : Char} (hc : ¬ IsCode c) (bytes : List UInt8) : c ∉ encode bytes :=
  fun hmem => hc (isCode_of_mem_encode bytes c hmem)

theorem isCode_ascii {c : Char} (hc : IsCode c) : c.toNat < 128 := by
  rcases hc with rfl | hc
  · decide
  · by_contra hlarge
    unfold sextetValue at hc
    rw [if_neg (by omega), if_neg (by omega), if_neg (by omega), if_neg, if_neg] at hc
    · simp at hc
    all_goals
      rintro rfl
      exact hlarge (by decide)

section Step

variable (rest : List Char) {value : Nat} (hvalue : value < 64) (leftchar pads : Nat)

include hvalue

theorem decodeFrom_zero : decodeFrom (sextetChar value :: rest) 0 leftchar pads =
    decodeFrom rest 1 value 0 := by
  rw [decodeFrom, if_neg (sextetChar_ne_pad value), sextetValue_sextetChar hvalue]
  rfl

theorem decodeFrom_one : decodeFrom (sextetChar value :: rest) 1 leftchar pads =
    (decodeFrom rest 2 (value % 16) 0).map (UInt8.ofNat (leftchar * 4 + value / 16) :: ·) := by
  rw [decodeFrom, if_neg (sextetChar_ne_pad value), sextetValue_sextetChar hvalue]
  rfl

theorem decodeFrom_two : decodeFrom (sextetChar value :: rest) 2 leftchar pads =
    (decodeFrom rest 3 (value % 4) 0).map (UInt8.ofNat (leftchar * 16 + value / 4) :: ·) := by
  rw [decodeFrom, if_neg (sextetChar_ne_pad value), sextetValue_sextetChar hvalue]
  rfl

theorem decodeFrom_three : decodeFrom (sextetChar value :: rest) 3 leftchar pads =
    (decodeFrom rest 0 0 0).map (UInt8.ofNat (leftchar * 64 + value) :: ·) := by
  rw [decodeFrom, if_neg (sextetChar_ne_pad value), sextetValue_sextetChar hvalue]
  rfl

end Step

theorem ofNat_eq_of_toNat {n : Nat} {byte : UInt8} (h : n = byte.toNat) : UInt8.ofNat n = byte := by
  rw [h, UInt8.ofNat_toNat]

/-- Encoding and then decoding gives the bytes back. -/
theorem decode_encode (bytes : List UInt8) : decode (encode bytes) = .ok bytes := by
  unfold decode
  induction bytes using encode.induct with
  | case1 => rfl
  | case2 x =>
      have hx := x.toNat_lt
      have hfirst : UInt8.ofNat (x.toNat / 4 * 4 + x.toNat % 4 * 16 / 16) = x :=
        ofNat_eq_of_toNat (by omega)
      rw [encode, decodeFrom_zero _ (by omega), decodeFrom_one _ (by omega), hfirst]
      simp [decodeFrom, Except.map]
  | case3 x y =>
      have hx := x.toNat_lt
      have hy := y.toNat_lt
      have hfirst : UInt8.ofNat (x.toNat / 4 * 4 + (x.toNat % 4 * 16 + y.toNat / 16) / 16) = x :=
        ofNat_eq_of_toNat (by omega)
      have hsecond : UInt8.ofNat ((x.toNat % 4 * 16 + y.toNat / 16) % 16 * 16 +
          y.toNat % 16 * 4 / 4) = y := ofNat_eq_of_toNat (by omega)
      rw [encode, decodeFrom_zero _ (by omega), decodeFrom_one _ (by omega),
        decodeFrom_two _ (by omega), hfirst, hsecond]
      simp [decodeFrom, Except.map]
  | case4 x y z rest ih =>
      have hx := x.toNat_lt
      have hy := y.toNat_lt
      have hz := z.toNat_lt
      have hfirst : UInt8.ofNat (x.toNat / 4 * 4 + (x.toNat % 4 * 16 + y.toNat / 16) / 16) = x :=
        ofNat_eq_of_toNat (by omega)
      have hsecond : UInt8.ofNat ((x.toNat % 4 * 16 + y.toNat / 16) % 16 * 16 +
          (y.toNat % 16 * 4 + z.toNat / 64) / 4) = y := ofNat_eq_of_toNat (by omega)
      have hthird : UInt8.ofNat ((y.toNat % 16 * 4 + z.toNat / 64) % 4 * 64 + z.toNat % 64) = z :=
        ofNat_eq_of_toNat (by omega)
      rw [encode, decodeFrom_zero _ (by omega), decodeFrom_one _ (by omega),
        decodeFrom_two _ (by omega), decodeFrom_three _ (by omega), ih, hfirst, hsecond, hthird]
      rfl

section Skip

variable {c : Char} (hc : ¬ IsCode c)

include hc

theorem decodeFrom_skip (rest : List Char) (quadPos leftchar pads : Nat) :
    decodeFrom (c :: rest) quadPos leftchar pads = decodeFrom rest quadPos leftchar pads := by
  have hpad : c ≠ '=' := fun h => hc (Or.inl h)
  have hvalue : sextetValue c = none := by
    rw [← Option.not_isSome_iff_eq_none]
    exact fun h => hc (Or.inr h)
  rw [decodeFrom, if_neg hpad, hvalue]

/-- A character outside the alphabet is not noticed at the end. -/
theorem decodeFrom_append_skip (text : List Char) (quadPos leftchar pads : Nat) :
    decodeFrom (text ++ [c]) quadPos leftchar pads = decodeFrom text quadPos leftchar pads := by
  induction text generalizing quadPos leftchar pads with
  | nil => exact decodeFrom_skip hc [] quadPos leftchar pads
  | cons d rest ih =>
      rw [List.cons_append, decodeFrom, decodeFrom]
      simp only [ih]

end Skip

/-- Characters outside the alphabet make no difference. -/
theorem decodeFrom_filter (text : List Char) (quadPos leftchar pads : Nat) :
    decodeFrom (text.filter fun c => decide (IsCode c)) quadPos leftchar pads =
      decodeFrom text quadPos leftchar pads := by
  induction text generalizing quadPos leftchar pads with
  | nil => rfl
  | cons c rest ih =>
      by_cases hc : IsCode c
      · rw [List.filter_cons_of_pos (by simpa using hc), decodeFrom, decodeFrom]
        simp only [ih]
      · rw [List.filter_cons_of_neg (by simpa using hc), ih, decodeFrom_skip hc]

theorem length_of_map_cons {outcome : Except Error (List UInt8)} {byte : UInt8}
    {read : List UInt8} (h : outcome.map (byte :: ·) = .ok read) :
    ∃ rest, outcome = .ok rest ∧ read.length = rest.length + 1 := by
  cases outcome with
  | error error => cases h
  | ok rest =>
      obtain rfl := Except.ok.inj h
      exact ⟨rest, rfl, rfl⟩

/-- Behind one more character of the alphabet an encoding is out of step: if it still can be read, there
is one byte too many. -/
theorem length_of_shifted (bytes : List UInt8) (leftchar pads : Nat) {read : List UInt8}
    (h : decodeFrom (encode bytes) 1 leftchar pads = .ok read) :
    read.length = bytes.length + 1 := by
  induction bytes using encode.induct generalizing leftchar pads read with
  | case1 => cases h
  | case2 x =>
      have hx := x.toNat_lt
      rw [encode, decodeFrom_one _ (by omega), decodeFrom_two _ (by omega)] at h
      obtain ⟨second, h, hlength⟩ := length_of_map_cons h
      obtain ⟨third, h, hlength'⟩ := length_of_map_cons h
      obtain rfl := Except.ok.inj h
      rw [hlength, hlength']
      rfl
  | case3 x y =>
      have hx := x.toNat_lt
      have hy := y.toNat_lt
      rw [encode, decodeFrom_one _ (by omega), decodeFrom_two _ (by omega),
        decodeFrom_three _ (by omega)] at h
      obtain ⟨second, h, hlength⟩ := length_of_map_cons h
      obtain ⟨third, h, hlength'⟩ := length_of_map_cons h
      obtain ⟨fourth, h, hlength''⟩ := length_of_map_cons h
      obtain rfl := Except.ok.inj h
      rw [hlength, hlength', hlength'']
      rfl
  | case4 x y z rest ih =>
      have hx := x.toNat_lt
      have hy := y.toNat_lt
      have hz := z.toNat_lt
      rw [encode, decodeFrom_one _ (by omega), decodeFrom_two _ (by omega),
        decodeFrom_three _ (by omega), decodeFrom_zero _ (by omega)] at h
      obtain ⟨second, h, hlength⟩ := length_of_map_cons h
      obtain ⟨third, h, hlength'⟩ := length_of_map_cons h
      obtain ⟨fourth, h, hlength''⟩ := length_of_map_cons h
      have hrest := ih _ _ h
      simp only [List.length_cons]
      omega

end Base64
