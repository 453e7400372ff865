import Mathlib.Data.List.Basic
import Mathlib.Tactic.Common

/-!
# Values with a tag and a length

The definite lengths of BER, and of DER where the shortest one is asked for.
-/

namespace Der

structure Tlv where
  tag : UInt8
  content : List UInt8
  deriving DecidableEq, Repr

/-- The number that the octets make, the most significant one first. -/
def ofOctets (octets : List UInt8) : Nat := octets.foldl (fun value octet => 256 * value + octet.toNat) 0

/-- The length at the start and what follows it. Lengths under 128 take one octet; otherwise it says how many octets
the length takes, and the shortest length has neither a zero at its front nor a place in the short form. -/
def readLength (shortest : Bool) : List UInt8 → Option (Nat × List UInt8)
  | [] => none
  | first :: rest =>
      if first.toNat < 128 then some (first.toNat, rest)
      else
        let octets := rest.take (first.toNat - 128)
        if first.toNat = 128 ∨ rest.length < first.toNat - 128 then none
        else if shortest ∧ (ofOctets octets < 128 ∨ octets.head? = some 0) then none
        else some (ofOctets octets, rest.drop (first.toNat - 128))

/-- The value at the start and what follows it. -/
def readTlv (shortest : Bool) : List UInt8 → Option (Tlv × List UInt8)
  | [] => none
  | tag :: rest =>
      (readLength shortest rest).bind fun (length, rest) =>
        if length ≤ rest.length then some (⟨tag, rest.take length⟩, rest.drop length) else none

/-- The octets are these values one after the other, and nothing else. -/
inductive Reads (shortest : Bool) : List UInt8 → List Tlv → Prop where
  | nil : Reads shortest [] []
  | cons {bytes rest : List UInt8} {tlv : Tlv} {tlvs : List Tlv} :
      readTlv shortest bytes = some (tlv, rest) → Reads shortest rest tlvs →
        Reads shortest bytes (tlv :: tlvs)

/-- Groups of seven bits; all octets of a group but its last have the high bit set. -/
def arcsFrom (value : Nat) : List UInt8 → List Nat
  | [] => []
  | octet :: rest =>
      if octet.toNat < 128 then (128 * value + octet.toNat) :: arcsFrom 0 rest
      else arcsFrom (128 * value + (octet.toNat - 128)) rest

/-- The arcs of an object identifier. The first group holds the first two of them. -/
def objectIdentifier (octets : List UInt8) : List Nat :=
  match arcsFrom 0 octets with
  | [] => []
  | first :: rest => min (first / 40) 2 :: (first - 40 * min (first / 40) 2) :: rest

variable {shortest : Bool} {tag : UInt8} {content rest : List UInt8}

theorem readTlv_of_length {bytes : List UInt8}
    (h : readLength shortest bytes = some (content.length, content ++ rest)) :
    readTlv shortest (tag :: bytes) = some (⟨tag, content⟩, rest) := by
  simp [readTlv, h]

theorem readTlv_short (h : content.length < 128) :
    readTlv shortest (tag :: UInt8.ofNat content.length :: (content ++ rest)) =
      some (⟨tag, content⟩, rest) := by
  have hlength : (UInt8.ofNat content.length).toNat = content.length := by
    rw [UInt8.toNat_ofNat', Nat.mod_eq_of_lt (by omega)]
  apply readTlv_of_length
  rw [readLength, hlength, if_pos h]

def twoOctets (length : Nat) : List UInt8 := [UInt8.ofNat (length / 256), UInt8.ofNat length]

theorem ofOctets_twoOctets {length : Nat} (h : length < 65536) :
    ofOctets (twoOctets length) = length := by
  have hhigh : (UInt8.ofNat (length / 256)).toNat = length / 256 := by
    rw [UInt8.toNat_ofNat', Nat.mod_eq_of_lt (by omega)]
  have hlow : (UInt8.ofNat length).toNat = length % 256 := UInt8.toNat_ofNat'
  simp only [ofOctets, twoOctets, List.foldl_cons, List.foldl_nil, hhigh, hlow]
  omega

theorem head?_twoOctets {length : Nat} (h : length < 65536) :
    (twoOctets length).head? = some 0 ↔ length < 256 := by
  rw [twoOctets, List.head?_cons, Option.some.injEq, ← UInt8.toNat_inj, UInt8.toNat_ofNat',
    Nat.mod_eq_of_lt (by omega), UInt8.toNat_zero]
  omega

/-- Two octets are the shortest form from 256 on. -/
theorem readLength_twoOctets (shortest : Bool) {length : Nat} (h : length < 65536)
    (rest : List UInt8) : readLength shortest (130 :: (twoOctets length ++ rest)) =
      if shortest ∧ length < 256 then none else some (length, rest) := by
  have htake : (twoOctets length ++ rest).take 2 = twoOctets length :=
    List.take_left' rfl
  have hdrop : (twoOctets length ++ rest).drop 2 = rest := List.drop_left' rfl
  have hcount : (130 : UInt8).toNat - 128 = 2 := rfl
  have hshort : length < 128 ∨ length < 256 ↔ length < 256 := by omega
  rw [readLength, if_neg (by decide), hcount, htake, hdrop]
  have henough : ¬ ((130 : UInt8).toNat = 128 ∨ (twoOctets length ++ rest).length < 2) := by
    simp [twoOctets]
  simp only [ofOctets_twoOctets h, head?_twoOctets h, hshort, if_neg henough]

theorem readTlv_twoOctets (h : content.length < 65536) :
    readTlv shortest (tag :: 130 :: (twoOctets content.length ++ (content ++ rest))) =
      if shortest ∧ content.length < 256 then none else some (⟨tag, content⟩, rest) := by
  have hread := readLength_twoOctets shortest h (content ++ rest)
  split
  · next hlong =>
    rw [if_pos hlong] at hread
    rw [readTlv, hread]
    rfl
  · next hshort =>
    rw [if_neg hshort] at hread
    exact readTlv_of_length hread

end Der
