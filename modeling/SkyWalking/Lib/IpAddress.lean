import SkyWalking.Lib.Text

/-!
# Literal IP addresses

What `ipaddress.ip_address` accepts as text. An IPv4 address has four decimal octets without leading
zeros; an IPv6 address has eight hexadecimal groups, of which one run of zeros may be left out and the last
two may be written as an IPv4 address, and may be followed by a zone.
-/

namespace IpAddress

inductive Address where
  | v4 (octets : List Nat)
  | v6 (hextets : List Nat)
  deriving DecidableEq, Repr

/-- `_parse_octet`. -/
def octet? (text : List Char) : Option Nat :=
  if text ≠ [] ∧ (text.all fun c => c.isDigit) ∧ text.length ≤ 3 ∧
      (text = ['0'] ∨ text.head? ≠ some '0') ∧ Nat.ofDigitChars 10 text 0 ≤ 255 then
    some (Nat.ofDigitChars 10 text 0)
  else none

def ipv4? (text : List Char) : Option (List Nat) :=
  if (text.splitOn '.').length = 4 then (text.splitOn '.').mapM octet? else none

def isHexDigit (c : Char) : Bool :=
  c.isDigit || ('a' ≤ c && c ≤ 'f') || ('A' ≤ c && c ≤ 'F')

def hexValue (c : Char) : Nat :=
  if c.isDigit then c.toNat - '0'.toNat
  else if 'a' ≤ c then c.toNat - 'a'.toNat + 10
  else c.toNat - 'A'.toNat + 10

/-- `_parse_hextet`. -/
def hextet? (text : List Char) : Option Nat :=
  if text ≠ [] ∧ text.all isHexDigit ∧ text.length ≤ 4 then
    some (text.foldl (fun value c => 16 * value + hexValue c) 0)
  else none

/-- An IPv4 address at the end is rewritten as two groups. -/
def expandSuffix (parts : List (List Char)) : Option (List (List Char)) :=
  let last := parts.getLast?.getD []
  if '.' ∈ last then
    match ipv4? last with
    | some [a, b, c, d] =>
        some (parts.dropLast ++ [Nat.toDigits 16 (256 * a + b), Nat.toDigits 16 (256 * c + d)])
    | _ => none
  else some parts

/-- The positions, the ends apart, at which nothing stands between two colons. -/
def skips (parts : List (List Char)) : List Nat :=
  (List.range parts.length).filter fun i => 0 < i && i + 1 < parts.length && parts[i]? == some []

/-- The number of groups on one side of the ones that are left out; an empty end is not a group. -/
def beside (edge : Option (List Char)) (parts : Nat) : Nat :=
  if edge = some [] then parts - 1 else parts

/-- An end may be empty only next to the groups that are left out. -/
def assemble (parts : List (List Char)) : Option (List Nat) :=
  match skips parts with
  | [] => if parts.length = 8 then parts.mapM hextet? else none
  | [skip] =>
      let before := beside parts.head? skip
      let after := beside parts.getLast? (parts.length - skip - 1)
      if (parts.head? = some [] ∧ before ≠ 0) ∨ (parts.getLast? = some [] ∧ after ≠ 0) ∨
          8 ≤ before + after then none
      else do
        let high ← (parts.take before).mapM hextet?
        let low ← (parts.drop (parts.length - after)).mapM hextet?
        some (high ++ List.replicate (8 - (before + after)) 0 ++ low)
  | _ => none

/-- `IPv6Address._ip_int_from_string`, for an address without a zone. -/
def groups? (text : List Char) : Option (List Nat) :=
  let parts := text.splitOn ':'
  if parts.length < 3 then none
  else (expandSuffix parts).bind fun parts => if 9 < parts.length then none else assemble parts

def ipv6? (text : List Char) : Option (List Nat) :=
  if '/' ∈ text then none
  else match text.splitOn '%' with
    | [address] => groups? address
    | [address, scope] => if scope = [] then none else groups? address
    | _ => none

/-- `ipaddress.ip_address`; `none` where it raises `ValueError`. -/
def ipAddress? (text : List Char) : Option Address :=
  match ipv4? text with
  | some octets => some (.v4 octets)
  | none => (ipv6? text).map .v6

/-- `IPv6Address.ipv4_mapped` is not `None`. -/
def isIpv4Mapped (hextets : List Nat) : Bool := hextets.take 6 = [0, 0, 0, 0, 0, 65535]

theorem isSome_of_mapM {α β : Type} {f : α → Option β} {xs : List α} {ys : List β}
    (h : xs.mapM f = some ys) : ∀ x ∈ xs, (f x).isSome := by
  induction xs generalizing ys with
  | nil => exact fun x hx => absurd hx List.not_mem_nil
  | cons x rest ih =>
      rw [List.mapM_cons] at h
      obtain ⟨y, hy, hrest⟩ := Option.bind_eq_some_iff.mp h
      obtain ⟨others, hothers, -⟩ := Option.bind_eq_some_iff.mp hrest
      intro x' hx'
      obtain rfl | hx' := List.mem_cons.mp hx'
      · rw [hy]
        rfl
      · exact ih hothers x' hx'

theorem isDigit_of_octet? {text : List Char} (h : (octet? text).isSome) : ∀ c ∈ text, c.isDigit := by
  unfold octet? at h
  split at h
  · next hall => exact List.all_eq_true.mp hall.2.1
  · cases h

theorem chars_of_ipv4? {text : List Char} (h : (ipv4? text).isSome) :
    ∀ c ∈ text, c.isDigit ∨ c = '.' := by
  obtain ⟨octets, hoctets⟩ := Option.isSome_iff_exists.mp h
  unfold ipv4? at hoctets
  split at hoctets
  · intro c hc
    have hpart : c = '.' ∨ ∃ part ∈ text.splitOn '.', c ∈ part := Text.mem_splitOn hc
    obtain hdot | ⟨part, hpart, hmem⟩ := hpart
    · exact .inr hdot
    · exact .inl (isDigit_of_octet? (isSome_of_mapM hoctets part hpart) c hmem)
  · cases hoctets

/-- The characters of an IPv6 address without a zone. -/
def IsAddressChar (c : Char) : Prop := isHexDigit c = true ∨ c = ':' ∨ c = '.'

theorem IsAddressChar.toNat {c : Char} (h : IsAddressChar c) : c.toNat = 46 ∨
    48 ≤ c.toNat ∧ c.toNat ≤ 58 ∨ 65 ≤ c.toNat ∧ c.toNat ≤ 70 ∨ 97 ≤ c.toNat ∧ c.toNat ≤ 102 := by
  obtain hhex | rfl | rfl := h
  · simp only [isHexDigit, Bool.or_eq_true, Bool.and_eq_true, decide_eq_true_eq,
      Char.isDigit_iff_toNat] at hhex
    have hle : ∀ d e : Char, d ≤ e ↔ d.toNat ≤ e.toNat := fun _ _ => Iff.rfl
    simp only [hle] at hhex
    obtain (hdigit | hlower) | hupper := hhex
    · exact .inr (.inl ⟨hdigit.1, hdigit.2.trans (by decide)⟩)
    · exact .inr (.inr (.inr hlower))
    · exact .inr (.inr (.inl hupper))
  · exact .inr (.inl (by decide))
  · exact .inl rfl

theorem IsAddressChar.not_isspaceChar {c : Char} (h : IsAddressChar c) : ¬ Text.isspaceChar c := by
  have hrange := h.toNat
  simp only [Text.isspaceChar, Text.inRanges, Text.spaceRanges, List.any_cons, List.any_nil,
    Bool.or_eq_true, Bool.and_eq_true, decide_eq_true_eq, Bool.false_eq_true, or_false]
  omega

theorem isHexDigit_of_hextet? {text : List Char} (h : (hextet? text).isSome) :
    ∀ c ∈ text, isHexDigit c := by
  unfold hextet? at h
  split at h
  · next hall => exact List.all_eq_true.mp hall.2.1
  · cases h

theorem mem_skips {parts : List (List Char)} {i : Nat} :
    i ∈ skips parts ↔ 0 < i ∧ i + 1 < parts.length ∧ parts[i]? = some [] := by
  simp only [skips, List.mem_filter, List.mem_range, Bool.and_eq_true, decide_eq_true_eq,
    beq_iff_eq]
  constructor
  · rintro ⟨-, ⟨hpos, hlast⟩, hempty⟩
    exact ⟨hpos, hlast, hempty⟩
  · rintro ⟨hpos, hlast, hempty⟩
    exact ⟨by omega, ⟨hpos, hlast⟩, hempty⟩

/-- What is neither read nor skipped is an empty end next to the skipped place. -/
theorem chars_of_skip {parts : List (List Char)} {skip before after : Nat}
    (hskip : parts[skip]? = some []) (hhead : parts.head? = some [] ∧ before = 0 ∧ skip = 1 ∨ before = skip)
    (hlast : parts.getLast? = some [] ∧ after = 0 ∧ skip + 2 = parts.length ∨
      skip + 1 + after = parts.length)
    (hhigh : ∀ part ∈ parts.take before, (hextet? part).isSome)
    (hlow : ∀ part ∈ parts.drop (parts.length - after), (hextet? part).isSome) :
    ∀ part ∈ parts, ∀ c ∈ part, isHexDigit c := by
  intro part hpart
  obtain ⟨i, hi⟩ := List.mem_iff_getElem?.mp hpart
  have hlt := (List.getElem?_eq_some_iff.mp hi).1
  have hempty : parts[i]? = some [] → ∀ c ∈ part, isHexDigit c := by
    intro h c hc
    rw [hi, Option.some.injEq] at h
    rw [h] at hc
    cases hc
  obtain hbefore | rfl | hafter := Nat.lt_trichotomy i skip
  · obtain ⟨hfirst, -, hone⟩ | hall := hhead
    · rw [List.head?_eq_getElem?] at hfirst
      obtain rfl : i = 0 := by omega
      exact hempty hfirst
    · refine isHexDigit_of_hextet? (hhigh part ?_)
      exact List.mem_iff_getElem?.mpr ⟨i, by rw [List.getElem?_take_of_lt (by omega), hi]⟩
  · exact hempty hskip
  · obtain ⟨hend, -, hlength⟩ | hall := hlast
    · rw [List.getLast?_eq_getElem?] at hend
      obtain rfl : i = parts.length - 1 := by omega
      exact hempty hend
    · refine isHexDigit_of_hextet? (hlow part ?_)
      refine List.mem_iff_getElem?.mpr ⟨i - (parts.length - after), ?_⟩
      rw [List.getElem?_drop, ← hi]
      congr 1
      omega

/-- Every group is empty or was read. -/
theorem chars_of_assemble {parts : List (List Char)} (h : (assemble parts).isSome) :
    ∀ part ∈ parts, ∀ c ∈ part, isHexDigit c := by
  obtain ⟨hextets, hhextets⟩ := Option.isSome_iff_exists.mp h
  unfold assemble at hhextets
  split at hhextets
  · split at hhextets
    · exact fun part hpart => isHexDigit_of_hextet? (isSome_of_mapM hhextets part hpart)
    · cases hhextets
  · next skip hskips =>
    obtain ⟨hpos, hlast, hempty⟩ := mem_skips.mp (hskips ▸ List.mem_singleton_self skip)
    dsimp only at hhextets
    split at hhextets
    · cases hhextets
    · next hends =>
      obtain ⟨high, hhigh, hrest⟩ := Option.bind_eq_some_iff.mp hhextets
      obtain ⟨low, hlow, -⟩ := Option.bind_eq_some_iff.mp hrest
      rw [not_or, not_or] at hends
      refine chars_of_skip hempty ?_ ?_ (isSome_of_mapM hhigh) (isSome_of_mapM hlow)
      · by_cases hfirst : parts.head? = some []
        · have hzero : skip - 1 = 0 := by simpa [beside, hfirst] using hends.1
          exact .inl ⟨hfirst, by rw [beside, if_pos hfirst, hzero], by omega⟩
        · exact .inr (by rw [beside, if_neg hfirst])
      · by_cases hend : parts.getLast? = some []
        · have hzero : parts.length - skip - 1 - 1 = 0 := by simpa [beside, hend] using hends.2.1
          exact .inl ⟨hend, by rw [beside, if_pos hend, hzero], by omega⟩
        · refine .inr ?_
          rw [beside, if_neg hend]
          omega
  · cases hhextets

theorem chars_of_expandSuffix {parts expanded : List (List Char)}
    (h : expandSuffix parts = some expanded)
    (hexpanded : ∀ part ∈ expanded, ∀ c ∈ part, isHexDigit c) :
    ∀ part ∈ parts, ∀ c ∈ part, IsAddressChar c := by
  unfold expandSuffix at h
  dsimp only at h
  split at h
  · next hdot =>
    split at h
    · next a b c d hipv4 =>
      have hlast := chars_of_ipv4? (Option.isSome_iff_exists.mpr ⟨_, hipv4⟩)
      obtain ⟨init, last, rfl⟩ : ∃ init last, parts = init ++ [last] := by
        obtain rfl | ⟨init, last, hparts⟩ := List.eq_nil_or_concat parts
        · cases hdot
        · exact ⟨init, last, by simpa using hparts⟩
      rw [List.getLast?_concat, Option.getD_some] at hlast
      rw [List.dropLast_concat] at h
      intro part hpart c hc
      obtain hinit | hend := List.mem_append.mp hpart
      · refine .inl (hexpanded part ?_ c hc)
        rw [← Option.some.inj h]
        exact List.mem_append_left _ hinit
      · rw [List.mem_singleton.mp hend] at hc
        obtain hdigit | rfl := hlast c hc
        · exact .inl (by simp [isHexDigit, hdigit])
        · exact .inr (.inr rfl)
    · cases h
  · cases h
    exact fun part hpart c hc => .inl (hexpanded part hpart c hc)

theorem chars_of_groups? {text : List Char} (h : (groups? text).isSome) :
    ':' ∈ text ∧ ∀ c ∈ text, IsAddressChar c := by
  obtain ⟨hextets, hhextets⟩ := Option.isSome_iff_exists.mp h
  unfold groups? at hhextets
  dsimp only at hhextets
  split at hhextets
  · cases hhextets
  · next hlong =>
    obtain ⟨parts, hexpand, hassemble⟩ := Option.bind_eq_some_iff.mp hhextets
    split at hassemble
    · cases hassemble
    · have hparts := chars_of_assemble (Option.isSome_iff_exists.mpr ⟨hextets, hassemble⟩)
      constructor
      · by_contra hcolon
        rw [List.splitOn_eq_singleton hcolon, List.length_singleton] at hlong
        omega
      · intro c hc
        have hpart : c = ':' ∨ ∃ part ∈ text.splitOn ':', c ∈ part := Text.mem_splitOn hc
        obtain hcolon | ⟨part, hpart, hmem⟩ := hpart
        · exact .inr (.inl hcolon)
        · exact chars_of_expandSuffix hexpand hparts part hpart c hmem

/-- An IPv6 address without a zone has a colon, and nothing but hexadecimal digits, colons and dots. -/
theorem chars_of_ipv6? {text : List Char} (h : (ipv6? text).isSome) (hzone : '%' ∉ text) :
    ':' ∈ text ∧ ∀ c ∈ text, IsAddressChar c := by
  unfold ipv6? at h
  split at h
  · cases h
  · rw [List.splitOn_eq_singleton hzone] at h
    exact chars_of_groups? h

end IpAddress
