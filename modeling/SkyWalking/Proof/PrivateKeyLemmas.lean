import SkyWalking.Tls.PrivateKey

/-!
# What a PKCS#1 key becomes

The header that is written by hand reads as the values that it should hold, and the file around it is one block that is
left as it is the next time.
-/

namespace SkyWalking

namespace Tls

open Armor

def algorithmIdentifier : Bytes :=
  [0x06, 0x09, 0x2A, 0x86, 0x48, 0x86, 0xF7, 0x0D, 0x01, 0x01, 0x01, 0x05, 0x00]

/-- The octets of the key value. -/
def keyOctets (key : Bytes) : Bytes := 0x04 :: 0x82 :: (Der.twoOctets key.length ++ (key ++ []))

/-- What the outer sequence holds. -/
def infoOctets (key : Bytes) : Bytes :=
  0x02 :: 0x01 :: ([0x00] ++ (0x30 :: 0x0D :: (algorithmIdentifier ++ keyOctets key)))

theorem length_infoOctets (key : Bytes) : (infoOctets key).length = key.length + 22 := by
  simp [infoOctets, keyOctets, algorithmIdentifier, Der.twoOctets]

theorem pkcs8Header_append (key : Bytes) : pkcs8Header key.length ++ key =
    0x30 :: 0x82 :: (Der.twoOctets (infoOctets key).length ++ (infoOctets key ++ [])) := by
  rw [length_infoOctets]
  simp [pkcs8Header, infoOctets, keyOctets, algorithmIdentifier, Der.twoOctets]

theorem hasTwoOctetLengths_wrap (key : Bytes) :
    HasTwoOctetLengths (pkcs8Header key.length ++ key) key := by
  refine ⟨infoOctets key, 0x02 :: 0x01 :: ([0x00] ++ (0x30 :: 0x0D :: algorithmIdentifier)), ?_, ?_⟩
  · rw [pkcs8Header_append, List.append_nil]
  · simp [infoOctets, keyOctets]

section Read

variable (shortest : Bool) {key : Bytes}

theorem readTlv_info (h : key.length ≤ 65513) :
    Der.readTlv shortest (pkcs8Header key.length ++ key) =
      if shortest ∧ key.length + 22 < 256 then none else some (⟨0x30, infoOctets key⟩, []) := by
  have hlength := length_infoOctets key
  rw [pkcs8Header_append, Der.readTlv_twoOctets (by omega), hlength]

theorem readTlv_version : Der.readTlv shortest (infoOctets key) =
    some (⟨0x02, [0x00]⟩, 0x30 :: 0x0D :: (algorithmIdentifier ++ keyOctets key)) :=
  @Der.readTlv_short shortest 0x02 [0x00] _ (by decide)

theorem readTlv_algorithm (rest : Bytes) :
    Der.readTlv shortest (0x30 :: 0x0D :: (algorithmIdentifier ++ rest)) =
      some (⟨0x30, algorithmIdentifier⟩, rest) :=
  @Der.readTlv_short shortest 0x30 algorithmIdentifier rest (by decide)

theorem readTlv_key (h : key.length ≤ 65513) : Der.readTlv shortest (keyOctets key) =
    if shortest ∧ key.length < 256 then none else some (⟨0x04, key⟩, []) := by
  rw [keyOctets, Der.readTlv_twoOctets (by omega)]

theorem reads_algorithm : Der.Reads shortest algorithmIdentifier
    [⟨0x06, [0x2A, 0x86, 0x48, 0x86, 0xF7, 0x0D, 0x01, 0x01, 0x01]⟩, ⟨0x05, []⟩] := by
  have hoid : Der.readTlv shortest algorithmIdentifier =
      some (⟨0x06, [0x2A, 0x86, 0x48, 0x86, 0xF7, 0x0D, 0x01, 0x01, 0x01]⟩, [0x05, 0x00]) := by
    cases shortest <;> decide
  have hnull : Der.readTlv shortest [0x05, 0x00] = some (⟨0x05, []⟩, []) := by
    cases shortest <;> decide
  exact .cons hoid (.cons hnull .nil)

/-- With two octets for each length, this is DER from 256 octets on. -/
theorem isPrivateKeyInfo_iff (h : key.length ≤ 65513) :
    IsPrivateKeyInfo shortest (pkcs8Header key.length ++ key) key ↔
      (shortest = true → 256 ≤ key.length) := by
  constructor
  · rintro ⟨info, algorithm, oid, houter, hinner, -⟩ rfl
    by_contra hshort
    cases houter with
    | cons hread _ =>
        rw [readTlv_info true h] at hread
        split at hread
        · cases hread
        · obtain rfl : infoOctets key = info := by simpa using congrArg (·.map (·.1.content)) hread
          cases hinner with
          | cons hversion hinner =>
              rw [readTlv_version] at hversion
              obtain ⟨-, rfl⟩ := Prod.mk.inj (Option.some.inj hversion)
              cases hinner with
              | cons halgorithm hinner =>
                  rw [readTlv_algorithm] at halgorithm
                  obtain ⟨-, rfl⟩ := Prod.mk.inj (Option.some.inj halgorithm)
                  cases hinner with
                  | cons hkey _ =>
                      rw [readTlv_key true h, if_pos ⟨rfl, Nat.lt_of_not_le hshort⟩] at hkey
                      cases hkey
  · intro hlong
    refine ⟨infoOctets key, algorithmIdentifier, _, .cons ?_ .nil,
      .cons (readTlv_version shortest) (.cons (readTlv_algorithm shortest _) (.cons ?_ .nil)),
      reads_algorithm shortest, by decide⟩
    · rw [readTlv_info shortest h, if_neg]
      rintro ⟨hshortest, hlt⟩
      have := hlong hshortest
      omega
    · rw [readTlv_key shortest h, if_neg]
      rintro ⟨hshortest, hlt⟩
      have := hlong hshortest
      omega

end Read

theorem isInside_pkcs1Opening : IsInside pkcs1Opening := by decide

theorem isInside_pkcs1Closing : IsInside pkcs1Closing := by decide

theorem isInside_encryptedOpening : IsInside encryptedOpening := by decide

theorem not_isCode_dash : ¬ Base64.IsCode '-' := by decide

theorem not_isCode_colon : ¬ Base64.IsCode ':' := by decide

/-- The words that announce an encrypted key have one dash between letters. -/
theorem not_infix_procType {first : List Char} {pieces : List (List Char)}
    (hpieces : ∀ piece ∈ first :: pieces, ¬ "Proc-Type:".toList <:+: piece) :
    isLegacyEncrypted (join (first :: pieces)) = false := by
  have hpair : ¬ ['-', '-'] <:+: "Proc-Type:".toList := by
    intro hcontained
    have hcount := hcontained.sublist.count_le '-'
    exact absurd hcount (by decide)
  have hnone := not_infix_join (by decide) (by decide) hpair hpieces
  rw [isLegacyEncrypted, Text.isIn_eq_false hnone, Bool.false_and]

theorem not_infix_procType_of_not_mem {piece : List Char} (h : ':' ∉ piece) :
    ¬ "Proc-Type:".toList <:+: piece := fun hcontained => h (hcontained.subset (by decide))

namespace Pkcs1File

variable {key : Bytes} (file : Pkcs1File key)

theorem not_mem_body {c : Char} (hlayout : isLayout c = false) (hcode : ¬ Base64.IsCode c) :
    c ∉ file.body := by
  intro hmem
  have hfilter : c ∈ file.body.filter fun c => !isLayout c :=
    List.mem_filter.mpr ⟨hmem, by rw [hlayout]; rfl⟩
  rw [file.body_ok] at hfilter
  exact Base64.not_mem_encode hcode key hfilter

theorem no_dash : '-' ∉ file.body := file.not_mem_body (by decide) not_isCode_dash

theorem free : Free [file.before, pkcs1Opening, file.body, pkcs1Closing, file.after] := by
  intro piece hpiece
  simp only [List.mem_cons, List.not_mem_nil, or_false] at hpiece
  obtain rfl | rfl | rfl | rfl | rfl := hpiece
  · exact file.before_ok.no_delimiter
  · exact isInside_pkcs1Opening.free
  · exact free_of_no_dash file.no_dash
  · exact isInside_pkcs1Closing.free
  · exact file.after_ok.no_delimiter

theorem decode_bytes : Bytes.decode file.bytes =
    join [file.before, pkcs1Opening, file.body, pkcs1Closing, file.after] := by
  rw [bytes, Bytes.decode_encode, join_cons, following_block]
  simp [following, pkcs1PemHeader, pkcs1PemFooter]

theorem not_encrypted :
    Text.isIn encryptedPemHeader
      (join [file.before, pkcs1Opening, file.body, pkcs1Closing, file.after]) = false ∧
    isLegacyEncrypted
      (join [file.before, pkcs1Opening, file.body, pkcs1Closing, file.after]) = false := by
  constructor
  · rw [Text.isIn, encryptedPemHeader, find?_join_none isInside_encryptedOpening file.free]
    · rfl
    · intro piece hpiece
      simp only [List.dropLast, List.mem_cons, List.not_mem_nil, or_false] at hpiece
      obtain rfl | rfl | rfl := hpiece
      · decide
      · rw [trim_of_no_dash file.no_dash]
        exact file.line_ok.2
      · decide
  · apply not_infix_procType
    intro piece hpiece
    simp only [List.mem_cons, List.not_mem_nil, or_false] at hpiece
    obtain rfl | rfl | rfl | rfl | rfl := hpiece
    · exact file.before_ok.no_proc_type
    · exact not_infix_procType_of_not_mem (by decide)
    · exact not_infix_procType_of_not_mem (file.not_mem_body (by decide) not_isCode_colon)
    · exact not_infix_procType_of_not_mem (by decide)
    · exact file.after_ok.no_proc_type

/-- The body between the delimiters is the key. -/
theorem normalizePrivateKeyPem_eq : normalizePrivateKeyPem file.bytes = wrapPkcs1 key := by
  have hopening : Text.find? pkcs1PemHeader
      (join [file.before, pkcs1Opening, file.body, pkcs1Closing, file.after]) =
        some file.before.length := by
    have hbefore : Free [file.before] := List.forall_mem_singleton.mpr file.before_ok.no_delimiter
    have hfound := find?_join isInside_pkcs1Opening hbefore (by simp) file.body
      [pkcs1Closing, file.after]
    have hone : join [file.before] = file.before := List.intercalate_singleton
    rw [hone] at hfound
    exact hfound
  have hdrop : (join [file.before, pkcs1Opening, file.body, pkcs1Closing, file.after]).drop
      file.before.length = following [pkcs1Opening, file.body, pkcs1Closing, file.after] := by
    rw [join_cons, List.drop_left]
  have hclosing := find?_closing isInside_pkcs1Opening isInside_pkcs1Closing
    (free_of_no_dash file.no_dash) (by decide)
    (by rw [trim_of_no_dash file.no_dash]; exact file.line_ok.1) file.after []
  have hbody : ((following [pkcs1Opening, file.body, pkcs1Closing, file.after]).take
      (delimiter pkcs1Opening ++ file.body).length).drop pkcs1PemHeader.length = file.body := by
    rw [following_block, ← List.append_assoc, List.take_left, pkcs1PemHeader, List.drop_left]
  have hdecoded : b64decode (Base64.encode key) = some key := by
    have hascii : ∀ c ∈ Base64.encode key, c.toNat < 128 := fun c hc =>
      Base64.isCode_ascii (Base64.isCode_of_mem_encode key c hc)
    rw [b64decode, if_pos (List.all_iff_forall_prop.mpr hascii), Base64.decode_encode]
    rfl
  obtain ⟨hencrypted, hlegacy⟩ := file.not_encrypted
  rw [normalizePrivateKeyPem, file.decode_bytes]
  simp only [hencrypted, hlegacy, hopening, hdrop, pkcs1PemFooter, hclosing, hbody, file.body_ok,
    hdecoded, Bool.false_eq_true, or_self, if_false]

end Pkcs1File

theorem flatten_pemLines (encoded : List Char) : (pemLines encoded).flatten = encoded := by
  rw [pemLines, flatten_lines, List.take_of_length_le]
  omega

theorem pemLines_ok {encoded : List Char} (h : ∀ c ∈ encoded, Base64.IsCode c) :
    ∀ line ∈ pemLines encoded, line.length ≤ 64 ∧ ∀ c ∈ line, Base64.IsCode c := by
  intro line hline
  obtain ⟨i, -, rfl⟩ := List.mem_map.mp hline
  exact ⟨List.length_take_le _ _, fun c hc => h c (List.mem_of_mem_drop (List.mem_of_mem_take hc))⟩

/-- The ends of the lines are not part of what they encode. -/
theorem decode_lines {lines : List (List Char)} (h : ∀ line ∈ lines, ∀ c ∈ line, Base64.IsCode c) :
    Base64.decode (['\n'].intercalate lines) = Base64.decode lines.flatten := by
  have hline : ∀ line ∈ lines, (line.filter fun c => decide (Base64.IsCode c)) = line :=
    fun line hmem => List.filter_eq_self.mpr fun c hc => decide_eq_true (h line hmem c hc)
  have hfilter : ((['\n'].intercalate lines).filter fun c => decide (Base64.IsCode c)) =
      lines.flatten := by
    cases lines with
    | nil => simp
    | cons first rest =>
        obtain ⟨hfirst, hrest⟩ := List.forall_mem_cons.mp hline
        rw [Text.intercalate_cons, List.filter_append, hfirst, List.filter_flatMap, List.flatten_cons,
          List.flatten_eq_flatMap]
        congr 1
        apply List.flatMap_congr
        intro line hmem
        rw [List.filter_append, hrest line hmem]
        rfl
  rw [Base64.decode, ← Base64.decodeFrom_filter, hfilter, Base64.decode]

theorem isPrivateKeyPem_wrap (der : Bytes) :
    IsPrivateKeyPem (Bytes.encode (pkcs8Pem (pemLines (Base64.encode der)))) der := by
  have hlines := pemLines_ok (Base64.isCode_of_mem_encode der)
  refine ⟨_, rfl, hlines, ?_⟩
  rw [decode_lines fun line hline => (hlines line hline).2, flatten_pemLines, Base64.decode_encode]

/-- A file has one content. -/
theorem IsPrivateKeyPem.unique {pem der der' : Bytes} (h : IsPrivateKeyPem pem der)
    (h' : IsPrivateKeyPem pem der') : der = der' := by
  obtain ⟨lines, rfl, -, hread⟩ := h
  obtain ⟨lines', hsame, -, hread'⟩ := h'
  have htext := congrArg Bytes.decode hsame
  rw [Bytes.decode_encode, Bytes.decode_encode, pkcs8Pem, pkcs8Pem, List.append_cancel_left_eq,
    List.cons_inj_right, List.append_cancel_right_eq] at htext
  rw [htext, hread'] at hread
  exact (Except.ok.inj hread).symm

/-- What stands between the delimiters of the wrapped key. -/
def pkcs8Body (lines : List (List Char)) : List Char := '\n' :: (['\n'].intercalate lines ++ ['\n'])

def pkcs8Pieces (lines : List (List Char)) : List (List Char) :=
  [[], "BEGIN PRIVATE KEY".toList, pkcs8Body lines, "END PRIVATE KEY".toList, ['\n']]

theorem pkcs8Pem_eq (lines : List (List Char)) : pkcs8Pem lines = join (pkcs8Pieces lines) := by
  rw [pkcs8Pieces, join_cons, following_block]
  simp [following, pkcs8Pem, pkcs8Body, pkcs8PemHeader, pkcs8PemFooter]

theorem mem_pkcs8Body {lines : List (List Char)} {c : Char}
    (h : ∀ line ∈ lines, ∀ c ∈ line, Base64.IsCode c) (hc : c ∈ pkcs8Body lines) :
    c = '\n' ∨ Base64.IsCode c := by
  cases lines with
  | nil => simp_all [pkcs8Body]
  | cons first rest =>
      obtain ⟨hfirst, hrest⟩ := List.forall_mem_cons.mp h
      rw [pkcs8Body, Text.intercalate_cons] at hc
      simp only [List.mem_cons, List.mem_append, List.mem_flatMap, List.not_mem_nil, or_false] at hc
      obtain hc | (hc | ⟨line, hline, hc | hc⟩) | hc := hc
      · exact .inl hc
      · exact .inr (hfirst c hc)
      · exact .inl hc
      · exact .inr (hrest line hline c hc)
      · exact .inl hc

/-- Neither a dash nor a colon stands in a piece. -/
theorem not_mem_pkcs8Pieces {lines : List (List Char)}
    (h : ∀ line ∈ lines, ∀ c ∈ line, Base64.IsCode c) :
    ∀ piece ∈ pkcs8Pieces lines, '-' ∉ piece ∧ ':' ∉ piece := by
  have hbody : '-' ∉ pkcs8Body lines ∧ ':' ∉ pkcs8Body lines := by
    constructor
    · exact fun hc => (mem_pkcs8Body h hc).elim (by decide) not_isCode_dash
    · exact fun hc => (mem_pkcs8Body h hc).elim (by decide) not_isCode_colon
  intro piece hpiece
  simp only [pkcs8Pieces, List.mem_cons, List.not_mem_nil, or_false] at hpiece
  obtain rfl | rfl | rfl | rfl | rfl := hpiece
  · decide
  · decide
  · exact hbody
  · decide
  · decide

/-- A wrapped key has neither of the blocks that are looked for. -/
theorem normalizePrivateKeyPem_wrapped {pem der : Bytes} (h : IsPrivateKeyPem pem der) :
    normalizePrivateKeyPem pem = .ok pem := by
  obtain ⟨lines, rfl, hlines, -⟩ := h
  have hpieces := not_mem_pkcs8Pieces fun line hline => (hlines line hline).2
  have hnone : ∀ inside : List Char, IsInside inside → inside.head? ≠ some '\n' →
      "BEGIN PRIVATE KEY".toList ≠ inside → "END PRIVATE KEY".toList ≠ inside →
      Text.find? (delimiter inside) (pkcs8Pem lines) = none := by
    intro inside hinside hhead hopening hclosing
    rw [pkcs8Pem_eq]
    apply find?_join_none hinside (free_of_no_dashes fun piece hpiece => (hpieces piece hpiece).1)
    intro piece hpiece
    have hmem : piece ∈ pkcs8Pieces lines :=
      List.mem_cons_of_mem _ (List.dropLast_subset _ hpiece)
    rw [trim_of_no_dash (hpieces piece hmem).1]
    simp only [List.dropLast, List.mem_cons, List.not_mem_nil, or_false] at hpiece
    obtain rfl | rfl | rfl := hpiece
    · exact hopening
    · rintro rfl
      exact hhead (by rw [pkcs8Body, List.head?_cons])
    · exact hclosing
  have hencrypted : Text.isIn encryptedPemHeader (pkcs8Pem lines) = false := by
    rw [Text.isIn, encryptedPemHeader,
      hnone _ isInside_encryptedOpening (by decide) (by decide) (by decide)]
    rfl
  have hpkcs1 : Text.find? pkcs1PemHeader (pkcs8Pem lines) = none :=
    hnone _ isInside_pkcs1Opening (by decide) (by decide) (by decide)
  have hlegacy : isLegacyEncrypted (pkcs8Pem lines) = false := by
    rw [pkcs8Pem_eq]
    exact not_infix_procType fun piece hpiece =>
      not_infix_procType_of_not_mem (hpieces piece hpiece).2
  simp [normalizePrivateKeyPem, Bytes.decode_encode, hencrypted, hpkcs1, hlegacy]

theorem wrapPkcs1_of_le {key : Bytes} (h : key.length ≤ 65513) : wrapPkcs1 key =
    .ok (Bytes.encode (pkcs8Pem (pemLines (Base64.encode (pkcs8Header key.length ++ key))))) := by
  rw [wrapPkcs1, if_neg]
  omega

theorem wrapPkcs1_of_lt {key : Bytes} (h : 65513 < key.length) :
    wrapPkcs1 key = .error .tooLarge := by
  rw [wrapPkcs1, if_pos]
  omega

/-- A key whose length fits in the two octets is wrapped, wherever its lines end, and the next time the result is left
alone. The lengths are right as BER and always take two octets; they are the shortest ones, as in DER, from 256 octets
on. -/
theorem pkcs1_wrapped {key : Bytes} (file : Pkcs1File key) :
    (key.length ≤ 65513 → ∃ pem der, normalizePrivateKeyPem file.bytes = .ok pem ∧
      IsPrivateKeyPem pem der ∧ IsPrivateKeyInfo false der key ∧ HasTwoOctetLengths der key ∧
      (IsPrivateKeyInfo true der key ↔ 256 ≤ key.length) ∧
      normalizePrivateKeyPem pem = .ok pem) ∧
    ((∃ error, normalizePrivateKeyPem file.bytes = .error error) ↔ 65513 < key.length) := by
  rw [file.normalizePrivateKeyPem_eq]
  constructor
  · intro h
    have hpem := isPrivateKeyPem_wrap (pkcs8Header key.length ++ key)
    refine ⟨_, _, wrapPkcs1_of_le h, hpem, ?_, hasTwoOctetLengths_wrap key, ?_,
      normalizePrivateKeyPem_wrapped hpem⟩
    · rw [isPrivateKeyInfo_iff false h]
      intro hshortest
      cases hshortest
    · rw [isPrivateKeyInfo_iff true h]
      exact forall_prop_of_true rfl
  · constructor
    · rintro ⟨error, herror⟩
      by_contra hle
      rw [wrapPkcs1_of_le (Nat.le_of_not_lt hle)] at herror
      cases herror
    · intro h
      exact ⟨_, wrapPkcs1_of_lt h⟩

/-- A key of three octets, on two lines with blanks. -/
def spacedKeyFile : Pkcs1File [0x02, 0x01, 0x00] where
  before := "# key é\n".toList
  body := "\r\nAg \nEA\n".toList
  after := "\n".toList
  before_ok := ⟨free_of_no_dash (by decide), not_infix_procType_of_not_mem (by decide)⟩
  body_ok := by decide
  line_ok := by decide
  after_ok := ⟨free_of_no_dash (by decide), not_infix_procType_of_not_mem (by decide)⟩

/-- It is wrapped with lengths that are longer than they need to be. -/
theorem spacedKeyFile_wrapped : ∃ pem der, normalizePrivateKeyPem spacedKeyFile.bytes = .ok pem ∧
    IsPrivateKeyPem pem der ∧ IsPrivateKeyInfo false der [0x02, 0x01, 0x00] ∧
    HasTwoOctetLengths der [0x02, 0x01, 0x00] ∧ ¬ IsPrivateKeyInfo true der [0x02, 0x01, 0x00] ∧
    normalizePrivateKeyPem pem = .ok pem := by
  obtain ⟨pem, der, hpem, hder, hinfo, hlengths, hshortest, hagain⟩ :=
    (pkcs1_wrapped spacedKeyFile).1 (by decide)
  exact ⟨pem, der, hpem, hder, hinfo, hlengths, hshortest.not.mpr (by decide), hagain⟩

/-- A file with no octets between its delimiters. -/
def emptyKeyFile : Pkcs1File [] where
  before := []
  body := ['\n']
  after := ['\n']
  before_ok := ⟨free_of_no_dash (by decide), not_infix_procType_of_not_mem (by decide)⟩
  body_ok := by decide
  line_ok := by decide
  after_ok := ⟨free_of_no_dash (by decide), not_infix_procType_of_not_mem (by decide)⟩

theorem length_not_shortest : ¬ ∃ pem der, normalizePrivateKeyPem emptyKeyFile.bytes = .ok pem ∧
    IsPrivateKeyPem pem der ∧ IsPrivateKeyInfo true der [] := by
  rintro ⟨pem, der, hpem, hder, hinfo⟩
  rw [emptyKeyFile.normalizePrivateKeyPem_eq, wrapPkcs1_of_le (Nat.zero_le _)] at hpem
  obtain rfl := Except.ok.inj hpem
  obtain rfl := hder.unique (isPrivateKeyPem_wrap _)
  have hlong := (isPrivateKeyInfo_iff true (Nat.zero_le _)).mp hinfo rfl
  exact absurd hlong (by decide)

end Tls

end SkyWalking
