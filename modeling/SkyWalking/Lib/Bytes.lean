import Mathlib.Data.List.Basic
import Mathlib.Data.Nat.Digits.Defs

/-!
# Bytes written as text

`str` of a byte string is its literal: the bytes between quotes behind a `b`, not the text that they
encode.
-/

namespace Bytes

/-- `text.encode('utf-8')`. -/
def ofText (text : String) : List UInt8 := text.toByteArray.data.toList

def apostrophe : Char := Char.ofNat 39

def quotationMark : Char := Char.ofNat 34

def backslash : Char := Char.ofNat 92

/-- A literal is put between apostrophes, unless only quotation marks save an escape. -/
def quote (bytes : List UInt8) : Char :=
  if 39 ∈ bytes ∧ 34 ∉ bytes then quotationMark else apostrophe

/-- How one byte is written in a literal between two `mark`s. -/
def escape (mark : Char) (byte : UInt8) : List Char :=
  let c := Char.ofNat byte.toNat
  if c = mark ∨ c = backslash then [backslash, c]
  else if byte = 9 then [backslash, 't']
  else if byte = 10 then [backslash, 'n']
  else if byte = 13 then [backslash, 'r']
  else if byte < 32 ∨ 127 ≤ byte then
    [backslash, 'x', Nat.digitChar (byte.toNat / 16), Nat.digitChar (byte.toNat % 16)]
  else [c]

/-- `str(value)` of a byte string. -/
def str (bytes : List UInt8) : String :=
  String.ofList ('b' :: quote bytes :: bytes.flatMap (escape (quote bytes)) ++ [quote bytes])

example : str [104, 39, 10, 255] = "b\"h'\\n\\xff\"" := by decide

/-- Printable ASCII other than the apostrophe and the backslash. -/
def IsPlain (c : Char) : Prop := 32 ≤ c.toNat ∧ c.toNat < 127 ∧ c ≠ apostrophe ∧ c ≠ backslash

instance (c : Char) : Decidable (IsPlain c) := inferInstanceAs (Decidable (_ ∧ _ ∧ _ ∧ _))

/-- The byte of an ASCII character. -/
def ofChar (c : Char) : UInt8 := UInt8.ofNat c.toNat

theorem toNat_ofChar {c : Char} (hc : c.toNat < 128) : (ofChar c).toNat = c.toNat := by
  rw [ofChar, UInt8.toNat_ofNat', Nat.mod_eq_of_lt (by omega)]

theorem char_ofChar {c : Char} (hc : c.toNat < 128) : Char.ofNat (ofChar c).toNat = c := by
  rw [toNat_ofChar hc, Char.ofNat_toNat]

/-- ASCII characters take one byte each. -/
theorem ofText_of_ascii {text : List Char} (htext : ∀ c ∈ text, c.toNat < 128) :
    ofText (String.ofList text) = text.map ofChar := by
  unfold ofText
  rw [String.toByteArray_ofList]
  induction text with
  | nil => rfl
  | cons c rest ih =>
      have hc : c.toNat < 128 := htext c List.mem_cons_self
      have hsingle : String.utf8EncodeChar c = [ofChar c] := by
        rw [String.utf8EncodeChar, if_pos (show c.val.toNat ≤ 127 from Nat.le_of_lt_succ hc)]
        rfl
      rw [List.utf8Encode_cons, List.utf8Encode_singleton, hsingle, List.map_cons,
        ← ih fun d hd => htext d (List.mem_cons_of_mem _ hd)]
      simp

theorem escape_of_plain {c : Char} (hc : IsPlain c) : escape apostrophe (ofChar c) = [c] := by
  obtain ⟨hlow, hhigh, hquote, hslash⟩ := hc
  have hnat : (ofChar c).toNat = c.toNat := toNat_ofChar (by omega)
  have hne : ∀ byte : UInt8, byte.toNat < 32 → ofChar c ≠ byte := by
    rintro byte hbyte rfl
    omega
  unfold escape
  rw [char_ofChar (by omega), if_neg (not_or.mpr ⟨hquote, hslash⟩), if_neg (hne 9 (by decide)),
    if_neg (hne 10 (by decide)), if_neg (hne 13 (by decide)), if_neg]
  rw [UInt8.lt_iff_toNat_lt, UInt8.le_iff_toNat_le, hnat]
  exact not_or.mpr ⟨Nat.not_lt.mpr hlow, Nat.not_le.mpr hhigh⟩

/-- Encoded and turned into text again, plain text has become its own literal. -/
theorem str_ofText {text : List Char} (htext : ∀ c ∈ text, IsPlain c) :
    str (ofText (String.ofList text)) = String.ofList ('b' :: apostrophe :: text ++ [apostrophe]) := by
  have hascii : ∀ c ∈ text, c.toNat < 128 := fun c hc => (htext c hc).2.1.trans (by decide)
  have hquote : quote (text.map ofChar) = apostrophe := by
    refine if_neg fun h => ?_
    obtain ⟨c, hc, hbyte⟩ := List.mem_map.mp h.1
    refine (htext c hc).2.2.1 ?_
    rw [← char_ofChar (hascii c hc), hbyte]
    rfl
  have hescape : (text.map ofChar).flatMap (escape apostrophe) = text := by
    rw [List.flatMap_map]
    calc
      text.flatMap (fun c => escape apostrophe (ofChar c)) = text.flatMap fun c => [c] :=
        List.flatMap_congr fun c hc => escape_of_plain (htext c hc)
      _ = text := List.flatMap_singleton' text
  rw [ofText_of_ascii hascii, str, hquote, hescape]

/-- The UTF-8 encoding of a text. -/
def encode (text : List Char) : List UInt8 := text.flatMap String.utf8EncodeChar

/-- `data.decode('utf-8', errors='ignore')`. A byte that begins no character is left out; so are then the bytes
that were read with it, as none of them begins one either. The first `skip` bytes belong to a character that was
read. -/
def decodeFrom : Nat → List UInt8 → List Char
  | _, [] => []
  | skip + 1, _ :: rest => decodeFrom skip rest
  | 0, byte :: rest =>
      match (byte :: rest).toByteArray.utf8DecodeChar? 0 with
      | none => decodeFrom 0 rest
      | some c => c :: decodeFrom (c.utf8Size - 1) rest

def decode (data : List UInt8) : List Char := decodeFrom 0 data

theorem decodeFrom_append (skipped rest : List UInt8) :
    decodeFrom skipped.length (skipped ++ rest) = decodeFrom 0 rest := by
  induction skipped with
  | nil => rfl
  | cons byte skipped ih => exact ih

theorem decode_encode (text : List Char) : decode (encode text) = text := by
  induction text with
  | nil => rfl
  | cons c rest ih =>
      have hread : ((String.utf8EncodeChar c) ++ encode rest).toByteArray.utf8DecodeChar? 0 =
          some c := by
        rw [List.toByteArray_append]
        exact ByteArray.utf8DecodeChar?_utf8EncodeChar_append
      have hlength : (String.utf8EncodeChar c).length = c.utf8Size := String.length_utf8EncodeChar c
      have hpos := c.utf8Size_pos
      obtain ⟨byte, others, hbytes⟩ := List.exists_cons_of_length_pos (hlength ▸ hpos)
      rw [hbytes, List.length_cons] at hlength
      rw [hbytes, List.cons_append] at hread
      have hskip : c.utf8Size - 1 = others.length := by omega
      rw [encode, List.flatMap_cons, hbytes, List.cons_append, decode, decodeFrom]
      rw [encode] at hread
      rw [hread]
      simp only
      rw [hskip, decodeFrom_append]
      exact congrArg _ ih

/-- `text.encode('ascii')`; `none` where it raises. -/
def encodeAscii (text : List Char) : Option (List UInt8) :=
  if text.all fun c => c.toNat < 128 then some (text.map ofChar) else none

theorem encodeChar_of_ascii {c : Char} (hc : c.toNat < 128) : String.utf8EncodeChar c = [ofChar c] := by
  rw [String.utf8EncodeChar, if_pos (show c.val.toNat ≤ 127 from Nat.le_of_lt_succ hc)]
  rfl

theorem encode_of_ascii {text : List Char} (htext : ∀ c ∈ text, c.toNat < 128) :
    encode text = text.map ofChar := by
  rw [← List.flatMap_singleton' (text.map ofChar), List.flatMap_map]
  exact List.flatMap_congr fun c hc => encodeChar_of_ascii (htext c hc)

end Bytes
