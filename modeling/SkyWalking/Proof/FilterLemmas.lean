import SkyWalking.Utils.Filter

/-!
# The filter of the safe mode, part by part

A text is cut at every `://`. The filter keeps the part before the first one, and of each later part what stands after
its first `@`; a part without one is lost if an `@` follows on the line.
-/

namespace SkyWalking

open Text

variable {text rest part before : List Char} {parts : List (List Char)}

/-- What stands after the first `@`. -/
def afterAt (part : List Char) : List Char := (part.dropWhile (· ≠ '@')).drop 1

def filterParts : List (List Char) → List (List Char)
  | [] => []
  | part :: rest =>
      if '@' ∈ line part then afterAt part :: filterParts rest
      else if '\n' ∉ part ∧ atFollows rest then filterParts rest
      else part :: filterParts rest

/-- The parts behind the first one, each with its separator. -/
def following (parts : List (List Char)) : List Char := parts.flatMap (schemeEnd ++ ·)

theorem schemeEnd_ne_nil : schemeEnd ≠ [] := by decide

theorem schemeEnd_borderFree : BorderFree schemeEnd := by decide

theorem following_cons : following (part :: parts) = schemeEnd ++ (part ++ following parts) := by
  simp [following]

theorem intercalate_eq_following :
    schemeEnd.intercalate (part :: parts) = part ++ following parts :=
  intercalate_cons schemeEnd part parts

theorem suffix_afterAt (part : List Char) : afterAt part <:+ part :=
  (List.drop_suffix _ _).trans (List.dropWhile_suffix _)

theorem not_infix_afterAt (h : ¬ schemeEnd <:+: part) : ¬ schemeEnd <:+: afterAt part :=
  fun hcontained => h (hcontained.trans (suffix_afterAt part).isInfix)

theorem line_isPrefix (part : List Char) : line part <+: part := List.takeWhile_prefix _

theorem mem_of_mem_line {c : Char} (h : c ∈ line part) : c ∈ part := (line_isPrefix part).subset h

theorem line_eq_of_not_mem (h : '\n' ∉ part) : line part = part := by
  apply List.takeWhile_eq_self_iff.mpr
  exact ne_of_not_mem h

theorem line_append (h : '\n' ∉ part) : line (part ++ rest) = part ++ line rest := by
  apply List.takeWhile_append_of_pos
  exact ne_of_not_mem h

theorem line_append_of_mem (h : '\n' ∈ part) : line (part ++ rest) = line part := by
  induction part with
  | nil => cases h
  | cons c part ih =>
      by_cases hc : c = '\n'
      · simp [line, hc]
      · have hpart : '\n' ∈ part := (List.mem_cons.mp h).resolve_left (Ne.symm hc)
        have hrest := ih hpart
        simp only [line, List.cons_append, List.takeWhile_cons] at hrest ⊢
        rw [hrest]

/-- The match ends with the first `@`, which is on the line. -/
theorem matchUserinfo_eq (text : List Char) :
    matchUserinfo text =
      if '@' ∈ line text then some ((text.takeWhile (· ≠ '@')).length + 1) else none := by
  induction text with
  | nil => rfl
  | cons c rest ih =>
      rw [matchUserinfo]
      by_cases hat : c = '@'
      · simp [hat, line]
      · by_cases hfeed : c = '\n'
        · simp [hfeed, line]
        · rw [if_neg hat, if_neg hfeed, ih]
          have hmem : '@' ∈ line (c :: rest) ↔ '@' ∈ line rest := by
            simp [line, hfeed, Ne.symm hat]
          simp only [hmem]
          split <;> simp [hat]

theorem matchUserinfo_append (hat : '@' ∉ part) (hfeed : '\n' ∉ part) :
    matchUserinfo (part ++ rest) = (matchUserinfo rest).map (part.length + ·) := by
  induction part with
  | nil => simp
  | cons c part ih =>
      rw [List.mem_cons, not_or] at hat hfeed
      rw [List.cons_append, matchUserinfo, if_neg (Ne.symm hat.1), if_neg (Ne.symm hfeed.1),
        ih hat.2 hfeed.2, Option.map_map]
      congr 1
      ext length
      simp
      omega

theorem matchUserinfo_append_of_mem (hat : '@' ∈ line part) :
    matchUserinfo (part ++ rest) = matchUserinfo part := by
  induction part with
  | nil => cases hat
  | cons c part ih =>
      rw [List.cons_append, matchUserinfo, matchUserinfo]
      by_cases hc : c = '@'
      · rw [if_pos hc, if_pos hc]
      · by_cases hfeed : c = '\n'
        · simp [line, hfeed] at hat
        · rw [if_neg hc, if_neg hc, if_neg hfeed, if_neg hfeed, ih]
          simpa [line, hfeed, Ne.symm hc] using hat

theorem matchUserinfo_le {length : Nat} (h : matchUserinfo text = some length) :
    length ≤ text.length := by
  induction text generalizing length with
  | nil => cases h
  | cons c rest ih =>
      rw [matchUserinfo] at h
      split at h
      · obtain rfl := Option.some.inj h
        simp
      · split at h
        · cases h
        · obtain ⟨length, hrest, rfl⟩ := Option.map_eq_some_iff.mp h
          exact Nat.succ_le_succ (ih hrest)

theorem drop_takeWhile_at : part.drop ((part.takeWhile (· ≠ '@')).length + 1) = afterAt part := by
  induction part with
  | nil => rfl
  | cons c part ih =>
      by_cases hat : c = '@'
      · simp [afterAt, hat]
      · rw [afterAt] at ih ⊢
        simpa [hat] using ih

theorem atFollows_eq : atFollows (part :: parts) = decide ('@' ∈ line (part ++ following parts)) := by
  induction parts generalizing part with
  | nil => simp [atFollows, following]
  | cons next parts ih =>
      rw [atFollows, ih]
      by_cases hfeed : '\n' ∈ part
      · simp [hfeed, line_append_of_mem hfeed]
      · have hsep : line (schemeEnd ++ (next ++ following parts)) =
            schemeEnd ++ line (next ++ following parts) := line_append (by decide)
        rw [line_append hfeed, following_cons, hsep, line_eq_of_not_mem hfeed]
        have hnot : '@' ∉ schemeEnd := by decide
        simp [hfeed, hnot]

theorem subUserinfo_eq_drop (skip : Nat) (text : List Char) :
    subUserinfo skip text = subUserinfo 0 (text.drop skip) := by
  induction text generalizing skip with
  | nil => cases skip <;> rfl
  | cons c rest ih =>
      cases skip with
      | zero => rfl
      | succ skip => exact ih skip

/-- Text up to the next separator is kept. -/
theorem subUserinfo_part (h : ¬ schemeEnd <:+: part) :
    subUserinfo 0 (part ++ following parts) = part ++ subUserinfo 0 (following parts) := by
  induction part with
  | nil => rfl
  | cons c part ih =>
      have hhere : ¬ schemeEnd <+: c :: (part ++ following parts) := by
        intro hbegins
        apply h
        cases parts with
        | nil =>
            rw [following, List.flatMap_nil, List.append_nil] at hbegins
            exact hbegins.isInfix
        | cons next parts =>
            rw [following_cons, ← List.cons_append] at hbegins
            exact (schemeEnd_borderFree.prefix_append (List.cons_ne_nil c part) hbegins).isInfix
      rw [List.cons_append, subUserinfo, if_neg (mt List.isPrefixOf_iff_prefix.mp hhere),
        ih fun hcontained => h (hcontained.trans (List.suffix_cons c part).isInfix)]
      rfl

theorem subUserinfo_schemeEnd (rest : List Char) :
    subUserinfo 0 (schemeEnd ++ rest) =
      schemeEnd ++ subUserinfo 0 (rest.drop ((matchUserinfo rest).getD 0)) := by
  have hfound : schemeEnd.isPrefixOf (':' :: '/' :: '/' :: rest) = true :=
    List.isPrefixOf_iff_prefix.mpr ⟨rest, rfl⟩
  have hslash : ∀ rest : List Char, subUserinfo 0 ('/' :: rest) = '/' :: subUserinfo 0 rest := by
    intro rest
    rw [subUserinfo, if_neg]
    simp [schemeEnd]
  change subUserinfo 0 (':' :: '/' :: '/' :: rest) = _
  rw [subUserinfo, if_pos hfound, List.drop_succ_cons, List.drop_succ_cons, List.drop_zero]
  cases hmatch : matchUserinfo rest with
  | none =>
      simp only [hslash]
      rfl
  | some length =>
      have hskip : ('/' :: '/' :: rest).drop (2 + length) = rest.drop length := by
        rw [← List.drop_drop]
        rfl
      simp only
      rw [subUserinfo_eq_drop, hskip]
      rfl

theorem following_filterParts_at (hat : '@' ∈ line part) (hpart : ¬ schemeEnd <:+: part) :
    subUserinfo 0 (schemeEnd ++ (part ++ following parts)) =
      schemeEnd ++ (afterAt part ++ subUserinfo 0 (following parts)) := by
  have hmatch := matchUserinfo_eq part
  rw [if_pos hat] at hmatch
  have hlength := matchUserinfo_le hmatch
  rw [subUserinfo_schemeEnd, matchUserinfo_append_of_mem hat, hmatch, Option.getD_some,
    List.drop_append_of_le_length hlength, drop_takeWhile_at,
    subUserinfo_part (not_infix_afterAt hpart)]

/-- A match that begins before a part without an `@` goes on in the next part. -/
theorem following_filterParts_lost (hat : '@' ∉ line part) (hfeed : '\n' ∉ part)
    (hfollows : atFollows parts) :
    subUserinfo 0 (schemeEnd ++ (part ++ following parts)) = subUserinfo 0 (following parts) := by
  cases parts with
  | nil => cases hfollows
  | cons next parts =>
      rw [atFollows_eq, decide_eq_true_eq] at hfollows
      have hmatch := matchUserinfo_eq (next ++ following parts)
      rw [if_pos hfollows] at hmatch
      rw [line_eq_of_not_mem hfeed] at hat
      rw [following_cons, subUserinfo_schemeEnd, subUserinfo_schemeEnd,
        matchUserinfo_append hat hfeed, matchUserinfo_append (by decide) (by decide), hmatch,
        Option.map_some, Option.map_some, Option.getD_some, Option.getD_some,
        List.drop_length_add_append, List.drop_length_add_append]

theorem following_filterParts_kept (hat : '@' ∉ line part)
    (hkept : ¬ ('\n' ∉ part ∧ atFollows parts)) (hpart : ¬ schemeEnd <:+: part) :
    subUserinfo 0 (schemeEnd ++ (part ++ following parts)) =
      schemeEnd ++ (part ++ subUserinfo 0 (following parts)) := by
  have hline : '@' ∉ line (part ++ following parts) := by
    have hfollows : atFollows (part :: parts) = false := by
      simpa [atFollows, hat] using hkept
    rw [atFollows_eq] at hfollows
    exact of_decide_eq_false hfollows
  rw [subUserinfo_schemeEnd, matchUserinfo_eq, if_neg hline, Option.getD_none, List.drop_zero,
    subUserinfo_part hpart]

/-- The filter works on the parts. -/
theorem subUserinfo_following (hparts : ∀ part ∈ parts, ¬ schemeEnd <:+: part) :
    subUserinfo 0 (following parts) = following (filterParts parts) := by
  induction parts with
  | nil => rfl
  | cons part parts ih =>
      obtain ⟨hpart, hparts⟩ := List.forall_mem_cons.mp hparts
      rw [following_cons, filterParts]
      split
      · next hat => rw [following_filterParts_at hat hpart, ih hparts, following_cons]
      · next hat =>
        split
        · next hlost => rw [following_filterParts_lost hat hlost.1 hlost.2, ih hparts]
        · next hkept => rw [following_filterParts_kept hat hkept hpart, ih hparts, following_cons]

/-- The part begins with an authority, which loses what stands before its last `@`. -/
def dropUserinfo (part : List Char) : List Char :=
  (authority part).rtakeWhile (· ≠ '@') ++ part.dropWhile fun c => !isDelimiter c

def safeParts : List Char → List (List Char) → List (List Char)
  | _, [] => []
  | before, part :: rest =>
      (if endsWithScheme before then dropUserinfo part else part) :: safeParts part rest

theorem authority_isPrefix (part : List Char) : authority part <+: part := List.takeWhile_prefix _

theorem not_isDelimiter_of_mem_authority {c : Char} (h : c ∈ authority part) :
    isDelimiter c = false := by
  simpa using List.mem_takeWhile_imp h

theorem mem_authority_append {c : Char} (h : c ∈ authority (part ++ rest)) :
    c ∈ authority part ∨ c ∈ authority rest := by
  rw [authority, List.takeWhile_append] at h
  split at h
  · next hall =>
    obtain h | h := List.mem_append.mp h
    · have hself := (List.takeWhile_prefix (l := part) fun c => !isDelimiter c).eq_of_length hall
      refine .inl ?_
      rwa [authority, hself]
    · exact .inr h
  · exact .inl h

theorem dropUserinfo_of_not_mem (h : '@' ∉ authority part) : dropUserinfo part = part := by
  have hall : (authority part).rtakeWhile (· ≠ '@') = authority part := by
    apply List.rtakeWhile_eq_self_iff.mpr
    exact ne_of_not_mem h
  rw [dropUserinfo, hall]
  exact List.takeWhile_append_dropWhile

/-- The userinfo may contain an `@` itself. -/
theorem dropUserinfo_append {user : List Char} (huser : ∀ c ∈ user, isDelimiter c = false)
    (h : '@' ∉ authority part) : dropUserinfo (user ++ '@' :: part) = part := by
  have hopen : ∀ c ∈ user ++ ['@'], (!isDelimiter c) = true := by
    rintro c hc
    obtain hc | hc := List.mem_append.mp hc
    · rw [huser c hc, Bool.not_false]
    · obtain rfl := List.mem_singleton.mp hc
      decide
  have hauthority : authority (user ++ '@' :: part) = user ++ '@' :: authority part := by
    have hfirst := @List.takeWhile_append_of_pos _ _ (user ++ ['@']) part hopen
    simpa [authority] using hfirst
  have hrest := @List.dropWhile_append_of_pos _ _ (user ++ ['@']) part hopen
  rw [List.append_assoc, List.singleton_append] at hrest
  rw [dropUserinfo, hauthority, hrest, rtakeWhile_append_cons (by simp)]
  have hpart := dropUserinfo_of_not_mem h
  rwa [dropUserinfo] at hpart

theorem exists_userinfo (h : '@' ∈ authority part) : ∃ user rest, part = user ++ '@' :: rest ∧
    '@' ∉ user ∧ ∀ c ∈ user, isDelimiter c = false := by
  obtain ⟨user, mid, hmid, hnot⟩ := List.eq_append_cons_of_mem h
  obtain ⟨tail, htail⟩ := authority_isPrefix part
  refine ⟨user, mid ++ tail, ?_, hnot, fun c hc => ?_⟩
  · rw [← htail, hmid, List.append_assoc, List.cons_append]
  · have hmem : c ∈ authority part := by
      rw [hmid]
      exact List.mem_append_left _ hc
    exact not_isDelimiter_of_mem_authority hmem

theorem afterAt_append {user : List Char} (h : '@' ∉ user) : afterAt (user ++ '@' :: part) = part := by
  have hdrop : (user ++ '@' :: part).dropWhile (· ≠ '@') = '@' :: part := by
    rw [List.dropWhile_append_of_pos (ne_of_not_mem h), List.dropWhile_cons_of_neg (by simp)]
  rw [afterAt, hdrop, List.drop_one, List.tail_cons]

theorem line_append_at {user : List Char} (h : ∀ c ∈ user, isDelimiter c = false) :
    line (user ++ '@' :: part) = user ++ '@' :: line part := by
  have hfeed : '\n' ∉ user ++ ['@'] := by
    intro hmem
    obtain hmem | hmem := List.mem_append.mp hmem
    · exact absurd (h _ hmem) (by decide)
    · exact absurd (List.mem_singleton.mp hmem) (by decide)
  have hline : line (user ++ ['@'] ++ part) = user ++ ['@'] ++ line part := line_append hfeed
  rwa [List.append_assoc, List.append_assoc, List.singleton_append, List.singleton_append] at hline

theorem mem_line_of_mem_authority (h : '@' ∈ authority part) : '@' ∈ line part := by
  obtain ⟨user, rest, rfl, -, huser⟩ := exists_userinfo h
  rw [line_append_at huser]
  simp

/-- With one `@` on the line, the first one is the last one of the authority. -/
theorem dropUserinfo_eq_afterAt (hat : '@' ∈ authority part) (hone : (line part).count '@' = 1) :
    dropUserinfo part = afterAt part ∧ '@' ∉ line (afterAt part) := by
  obtain ⟨user, rest, rfl, hnot, huser⟩ := exists_userinfo hat
  rw [line_append_at huser, List.count_append, List.count_cons_self, List.count_eq_zero.mpr hnot] at hone
  have hrest : '@' ∉ line rest := List.count_eq_zero.mp (by omega)
  rw [afterAt_append hnot]
  exact ⟨dropUserinfo_append huser fun h => hrest (mem_line_of_mem_authority h), hrest⟩

theorem count_line_eq_one (hat : '@' ∈ authority part) (hnot : '@' ∉ line (afterAt part)) :
    (line part).count '@' = 1 := by
  obtain ⟨user, rest, rfl, huser, hdelimiter⟩ := exists_userinfo hat
  rw [afterAt_append huser] at hnot
  rw [line_append_at hdelimiter, List.count_append, List.count_cons_self,
    List.count_eq_zero.mpr huser, List.count_eq_zero.mpr hnot]

theorem length_filterParts_le (parts : List (List Char)) :
    (filterParts parts).length ≤ parts.length := by
  induction parts with
  | nil => exact Nat.le_refl 0
  | cons part parts ih =>
      rw [filterParts]
      split
      · exact Nat.succ_le_succ ih
      · split
        · exact Nat.le_succ_of_le ih
        · exact Nat.succ_le_succ ih

theorem length_safeParts (before : List Char) (parts : List (List Char)) :
    (safeParts before parts).length = parts.length := by
  induction parts generalizing before with
  | nil => rfl
  | cons part parts ih => exact congrArg Nat.succ (ih part)

theorem afterAt_ne (h : '@' ∈ line part) : afterAt part ≠ part := by
  intro heq
  obtain ⟨user, rest, rfl, hnot⟩ := List.eq_append_cons_of_mem (mem_of_mem_line h)
  rw [afterAt_append hnot] at heq
  have hlength := congrArg List.length heq
  rw [List.length_append, List.length_cons] at hlength
  omega

theorem atFollows_eq_false (h : ∀ part ∈ parts, '@' ∉ line part) : atFollows parts = false := by
  induction parts with
  | nil => rfl
  | cons part parts ih =>
      obtain ⟨hpart, hparts⟩ := List.forall_mem_cons.mp h
      simp [atFollows, hpart, ih hparts]

/-- A second pass changes nothing exactly if there is no `@` to be found. -/
theorem filterParts_eq_self_iff : filterParts parts = parts ↔ ∀ part ∈ parts, '@' ∉ line part := by
  induction parts with
  | nil => simp [filterParts]
  | cons part parts ih =>
      rw [filterParts, List.forall_mem_cons, ← ih]
      split
      · next hat =>
        refine ⟨fun h => ?_, fun h => absurd hat h.1⟩
        exact absurd (List.cons.inj h).1 (afterAt_ne hat)
      · next hat =>
        split
        · next hlost =>
          constructor
          · intro h
            have hlength := length_filterParts_le parts
            rw [h, List.length_cons] at hlength
            omega
          · rintro ⟨-, h⟩
            rw [atFollows_eq_false (ih.mp h)] at hlost
            exact absurd hlost.2 Bool.false_ne_true
        · exact ⟨fun h => ⟨hat, (List.cons.inj h).2⟩, fun h => by rw [h.2]⟩

/-- Where every `@` that is found ends a userinfo, the filter removes the userinfos. -/
theorem OneAtEach.filterParts_eq (h : OneAtEach before parts) :
    filterParts parts = safeParts before parts ∧ ∀ part ∈ filterParts parts, '@' ∉ line part := by
  induction parts generalizing before with
  | nil => exact ⟨rfl, by simp [filterParts]⟩
  | cons part parts ih =>
      obtain ⟨hpart, hparts⟩ := h
      obtain ⟨heq, hnone⟩ := ih hparts
      rw [filterParts, safeParts]
      split
      · next hat =>
        obtain ⟨hscheme, hauthority, hone⟩ := hpart (by simp [atFollows, hat])
        obtain ⟨hdrop, hafter⟩ := dropUserinfo_eq_afterAt hauthority hone
        rw [if_pos hscheme, hdrop, heq]
        exact ⟨rfl, List.forall_mem_cons.mpr ⟨hafter, heq ▸ hnone⟩⟩
      · next hat =>
        have hauthority : '@' ∉ authority part := fun h => hat (mem_line_of_mem_authority h)
        split
        · next hlost =>
          have hfollows : atFollows (part :: parts) = true := by simp [atFollows, hlost]
          exact absurd (hpart hfollows).2.1 hauthority
        · rw [dropUserinfo_of_not_mem hauthority, ite_self, heq]
          exact ⟨rfl, List.forall_mem_cons.mpr ⟨hat, heq ▸ hnone⟩⟩

/-- The other direction. -/
theorem oneAtEach_of_filterParts_eq (h : filterParts parts = safeParts before parts)
    (hnone : ∀ part ∈ filterParts parts, '@' ∉ line part) : OneAtEach before parts := by
  induction parts generalizing before with
  | nil => trivial
  | cons part parts ih =>
      rw [filterParts] at h hnone
      rw [safeParts] at h
      split at h
      · next hat =>
        rw [if_pos hat] at hnone
        obtain ⟨hafter, hrest⟩ := List.forall_mem_cons.mp hnone
        obtain ⟨hhead, htail⟩ := List.cons.inj h
        refine ⟨fun _ => ?_, ih htail hrest⟩
        split at hhead
        · next hscheme =>
          have hauthority : '@' ∈ authority part := by
            by_contra hno
            rw [dropUserinfo_of_not_mem hno] at hhead
            exact afterAt_ne hat hhead
          exact ⟨hscheme, hauthority, count_line_eq_one hauthority hafter⟩
        · exact absurd hhead (afterAt_ne hat)
      · next hat =>
        rw [if_neg hat] at hnone
        split at h
        · have hlength := length_filterParts_le parts
          rw [h, List.length_cons, length_safeParts] at hlength
          omega
        · next hkept =>
          rw [if_neg hkept] at hnone
          refine ⟨fun hfollows => ?_, ih (List.cons.inj h).2 (List.forall_mem_cons.mp hnone).2⟩
          have hno : atFollows (part :: parts) = false := by simpa [atFollows, hat] using hkept
          rw [hno] at hfollows
          cases hfollows

theorem oneAtEach_iff : OneAtEach before parts ↔
    filterParts parts = safeParts before parts ∧
      filterParts (filterParts parts) = filterParts parts := by
  rw [filterParts_eq_self_iff]
  exact ⟨OneAtEach.filterParts_eq, fun h => oneAtEach_of_filterParts_eq h.1 h.2⟩

end SkyWalking
