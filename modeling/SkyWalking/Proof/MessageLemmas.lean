import Mathlib.Data.Bool.AllAny
import SkyWalking.Proof.FilterLemmas

/-!
# The filter of the safe mode on messages

The parts of a message are those of its URLs, each with its userinfo in front, so that removing the userinfos of the
parts removes those of the URLs.
-/

namespace SkyWalking

open Text

variable {text rest part before : List Char} {parts : List (List Char)}

theorem endsWithScheme_append_cons {c : Char} (hc : isSchemeChar c = false) (front : List Char) :
    endsWithScheme (front ++ c :: part) = endsWithScheme part := by
  rw [endsWithScheme, rtakeWhile_append_cons hc, endsWithScheme]

theorem endsWithScheme_schemeEnd (front : List Char) :
    endsWithScheme (front ++ (schemeEnd ++ part)) = endsWithScheme part := by
  have hend : front ++ (schemeEnd ++ part) = (front ++ [':', '/']) ++ '/' :: part := by
    simp [schemeEnd]
  rw [hend, endsWithScheme_append_cons (by decide)]

theorem IsScheme.isSchemeChar {scheme : List Char} (h : IsScheme scheme) :
    ∀ c ∈ scheme, isSchemeChar c := by
  obtain ⟨letter, rest, rfl, hletter, hrest⟩ := h
  refine List.forall_mem_cons.mpr ⟨?_, hrest⟩
  simp [SkyWalking.isSchemeChar, Char.isAlphanum, hletter]

theorem IsScheme.not_mem {scheme : List Char} (h : IsScheme scheme) {c : Char}
    (hc : SkyWalking.isSchemeChar c = false) : c ∉ scheme := by
  intro hmem
  rw [h.isSchemeChar c hmem] at hc
  cases hc

/-- What a text ends with after its last separator decides. -/
theorem endsWithScheme_iff : endsWithScheme text ↔
    ∃ front scheme, text = front ++ scheme ∧ IsScheme scheme := by
  constructor
  · intro h
    obtain ⟨letter, hmem, hletter⟩ := List.any_eq_true.mp h
    obtain ⟨run, rest, hrun⟩ := List.append_of_mem hmem
    obtain ⟨front, hfront⟩ := List.rtakeWhile_suffix SkyWalking.isSchemeChar text
    refine ⟨front ++ run, letter :: rest, ?_, letter, rest, rfl, hletter, fun c hc => ?_⟩
    · rw [List.append_assoc, ← hrun, hfront]
    · apply List.mem_rtakeWhile_imp (l := text)
      rw [hrun]
      exact List.mem_append_right _ (List.mem_cons_of_mem _ hc)
  · rintro ⟨front, scheme, rfl, hscheme⟩
    have hrun : (front ++ scheme).rtakeWhile SkyWalking.isSchemeChar =
        front.rtakeWhile SkyWalking.isSchemeChar ++ scheme := by
      have hall : ∀ c ∈ scheme.reverse, SkyWalking.isSchemeChar c := fun c hc =>
        hscheme.isSchemeChar c (List.mem_reverse.mp hc)
      rw [List.rtakeWhile, List.rtakeWhile, List.reverse_append,
        List.takeWhile_append_of_pos hall, List.reverse_append, List.reverse_reverse]
    obtain ⟨letter, rest, rfl, hletter, -⟩ := hscheme
    rw [endsWithScheme, hrun, List.any_append, List.any_cons, hletter]
    simp

theorem endsWithScheme_intercalate (part : List Char) (parts : List (List Char)) :
    endsWithScheme (schemeEnd.intercalate (part :: parts)) =
      endsWithScheme ((part :: parts).getLast (List.cons_ne_nil _ _)) := by
  induction parts generalizing part with
  | nil => simp
  | cons next parts ih =>
      rw [List.intercalate_cons_cons, List.append_assoc, endsWithScheme_schemeEnd, ih,
        List.getLast_cons (List.cons_ne_nil _ _)]

theorem UrlFree.tail (h : UrlFree (part ++ (schemeEnd ++ rest))) : UrlFree rest := by
  intro before after hrest
  have hwhole := h (part ++ (schemeEnd ++ before)) after (by
    rw [hrest, List.append_assoc, List.append_assoc])
  rwa [endsWithScheme_schemeEnd] at hwhole

/-- Without a slash there is no way to complete a `://`. -/
theorem UrlFree.append (h : UrlFree text) (hslash : '/' ∉ rest) : UrlFree (text ++ rest) := by
  intro before after heq
  obtain ⟨middle, rfl, hrest⟩ | ⟨middle, rfl, hafter⟩ := List.append_eq_append_iff.mp heq
  · exact absurd (by simp [hrest, schemeEnd]) hslash
  · obtain ⟨tail, rfl, -⟩ | ⟨tail, hend, hrest⟩ := List.append_eq_append_iff.mp hafter
    · exact h before tail rfl
    · cases tail with
      | nil =>
          rw [List.append_nil] at hend
          exact h before [] (by rw [hend, List.append_nil])
      | cons c tail =>
          have hlast : '/' ∈ c :: tail := by
            have hsuffix : c :: tail <:+ schemeEnd := ⟨middle, hend.symm⟩
            have hget := List.getLast_mem (List.cons_ne_nil c tail)
            rwa [hsuffix.getLast (List.cons_ne_nil c tail)] at hget
          exact absurd (hrest ▸ List.mem_append_left _ hlast) hslash

theorem UrlFree.safeParts_eq (h : UrlFree (schemeEnd.intercalate (part :: parts))) :
    safeParts part parts = parts := by
  induction parts generalizing part with
  | nil => rfl
  | cons next parts ih =>
      rw [List.intercalate_cons_cons, List.append_assoc] at h
      rw [safeParts, h part _ rfl, if_neg Bool.false_ne_true, ih h.tail]

theorem safeParts_append (before : List Char) (front back : List (List Char)) :
    safeParts before (front ++ back) = safeParts before front ++
      safeParts ((before :: front).getLast (List.cons_ne_nil _ _)) back := by
  induction front generalizing before with
  | nil => rfl
  | cons part front ih =>
      rw [List.cons_append, safeParts, safeParts, ih, List.cons_append,
        List.getLast_cons (List.cons_ne_nil _ _)]

/-- The text with what its parts lose left out. -/
def withoutUserinfo (text : List Char) : List Char :=
  schemeEnd.intercalate ((splitBy schemeEnd text).headD [] ::
    safeParts ((splitBy schemeEnd text).headD []) (splitBy schemeEnd text).tail)

theorem withoutUserinfo_eq (h : splitBy schemeEnd text = part :: parts) :
    withoutUserinfo text = schemeEnd.intercalate (part :: safeParts part parts) := by
  rw [withoutUserinfo, h]
  rfl

theorem urlFree_of_not_infix (h : ¬ schemeEnd <:+: text) : UrlFree text := by
  rintro before after rfl
  exact absurd ⟨before, after, by rw [List.append_assoc]⟩ h

theorem withoutUserinfo_of_urlFree (h : UrlFree text) : withoutUserinfo text = text := by
  obtain ⟨part, parts, hsplit⟩ := List.exists_cons_of_ne_nil (splitFrom_ne_nil schemeEnd 0 text)
  have htext : schemeEnd.intercalate (part :: parts) = text := by
    rw [← hsplit]
    exact intercalate_splitBy schemeEnd_ne_nil text
  rw [← htext] at h
  rw [withoutUserinfo_eq hsplit, h.safeParts_eq, htext]

theorem splitBy_at {user : List Char} (h : '/' ∉ user) (text : List Char) :
    splitBy schemeEnd (user ++ '@' :: text) =
      (splitBy schemeEnd text).modifyHead ((user ++ ['@']) ++ ·) := by
  induction user with
  | nil =>
      rw [List.nil_append, splitBy_cons (by simp [schemeEnd])]
      rfl
  | cons c user ih =>
      rw [List.mem_cons, not_or] at h
      have hhere : ¬ schemeEnd <+: c :: (user ++ '@' :: text) := by
        intro hbegins
        cases user with
        | nil => simp [schemeEnd] at hbegins
        | cons d user =>
            have hd := (List.cons_prefix_cons.mp (List.cons_prefix_cons.mp hbegins).2).1
            exact h.2 (hd ▸ List.mem_cons_self)
      rw [List.cons_append, splitBy_cons hhere, ih h.2, List.modifyHead_modifyHead]
      rfl

theorem splitBy_credentials (url : Url) (text : List Char) :
    splitBy schemeEnd (url.credentials ++ text) =
      (splitBy schemeEnd text).modifyHead (url.credentials ++ ·) := by
  rw [Url.credentials]
  cases huser : url.userinfo with
  | none => exact (congrFun List.modifyHead_id _).symm
  | some user =>
      have hslash : '/' ∉ user := fun h =>
        absurd (url.userinfo_ok user huser '/' h) (by decide)
      rw [Option.map_some, Option.getD_some, List.append_assoc, List.singleton_append,
        splitBy_at hslash]

theorem dropUserinfo_credentials (url : Url) (h : '@' ∉ authority part) :
    dropUserinfo (url.credentials ++ part) = part := by
  rw [Url.credentials]
  cases huser : url.userinfo with
  | none => exact dropUserinfo_of_not_mem h
  | some user =>
      rw [Option.map_some, Option.getD_some, List.append_assoc, List.singleton_append,
        dropUserinfo_append (url.userinfo_ok user huser) h]

theorem endsWithScheme_credentials (url : Url) (part : List Char) :
    endsWithScheme (url.credentials ++ part) = endsWithScheme part := by
  rw [Url.credentials]
  cases huser : url.userinfo with
  | none => rfl
  | some user =>
      rw [Option.map_some, Option.getD_some, List.append_assoc, List.singleton_append,
        endsWithScheme_append_cons (by decide)]

theorem safeParts_credentials (url : Url) :
    safeParts (url.credentials ++ part) parts = safeParts part parts := by
  cases parts with
  | nil => rfl
  | cons next parts => rw [safeParts, safeParts, endsWithScheme_credentials]

theorem authority_sublist (h : part <+: text) : authority part ⊆ authority text := by
  obtain ⟨tail, rfl⟩ := h
  intro c hc
  rw [authority, List.takeWhile_append]
  split
  · exact List.mem_append_left _ ((authority_isPrefix part).subset hc)
  · exact hc

theorem not_mem_authority_urls (urls : List Url) : '@' ∉ authority (urls.flatMap Url.text) := by
  cases urls with
  | nil => exact List.not_mem_nil
  | cons url urls =>
      intro h
      rw [List.flatMap_cons, Url.text, List.append_assoc, List.append_assoc] at h
      obtain h | h := mem_authority_append h
      · exact url.scheme_ok.not_mem (by decide) ((authority_isPrefix _).subset h)
      · have hend : authority (schemeEnd ++ (url.credentials ++ url.rest ++ urls.flatMap Url.text)) =
            [':'] := rfl
        rw [hend] at h
        exact absurd h (by decide)

/-- A URL loses its userinfo, and what comes after it is left to the URLs after it. -/
theorem withoutUserinfo_url {front text : List Char} (hfree : UrlFree front)
    (hscheme : endsWithScheme front) (url : Url) (hat : '@' ∉ authority text) :
    withoutUserinfo (front ++ (schemeEnd ++ (url.credentials ++ text))) =
      front ++ (schemeEnd ++ withoutUserinfo text) := by
  obtain ⟨part, parts, hfront⟩ := List.exists_cons_of_ne_nil (splitFrom_ne_nil schemeEnd 0 front)
  obtain ⟨first, others, htext⟩ := List.exists_cons_of_ne_nil (splitFrom_ne_nil schemeEnd 0 text)
  have hjoin : schemeEnd.intercalate (part :: parts) = front := by
    rw [← hfront]
    exact intercalate_splitBy schemeEnd_ne_nil front
  have hsplit : splitBy schemeEnd (front ++ (schemeEnd ++ (url.credentials ++ text))) =
      part :: (parts ++ (url.credentials ++ first) :: others) := by
    rw [splitBy_append_separator schemeEnd_ne_nil schemeEnd_borderFree, splitBy_credentials]
    exact congrArg₂ (· ++ ·) hfront (congrArg (List.modifyHead _) htext)
  have hlast : endsWithScheme ((part :: parts).getLast (List.cons_ne_nil _ _)) = true := by
    rw [← endsWithScheme_intercalate, hjoin, hscheme]
  have hfirst : '@' ∉ authority first := fun h =>
    hat (authority_sublist (prefix_of_splitFrom htext) h)
  rw [← hjoin] at hfree
  rw [withoutUserinfo_eq hsplit, safeParts_append, hfree.safeParts_eq, safeParts, if_pos hlast,
    dropUserinfo_credentials url hfirst, safeParts_credentials, withoutUserinfo_eq htext, ← hjoin,
    intercalate_cons, intercalate_cons, intercalate_cons, List.flatMap_append, List.flatMap_cons,
    List.append_assoc, List.append_assoc]

theorem withoutUserinfo_urls (urls : List Url) {text : List Char} (h : UrlFree text) :
    withoutUserinfo (text ++ urls.flatMap Url.text) =
      text ++ (urls.map Url.safe).flatMap Url.text := by
  induction urls generalizing text with
  | nil =>
      rw [List.flatMap_nil, List.append_nil, List.map_nil, List.flatMap_nil, List.append_nil,
        withoutUserinfo_of_urlFree h]
  | cons url urls ih =>
      have hfree : UrlFree (text ++ url.scheme) := h.append (url.scheme_ok.not_mem (by decide))
      have hscheme : endsWithScheme (text ++ url.scheme) :=
        endsWithScheme_iff.mpr ⟨text, url.scheme, rfl, url.scheme_ok⟩
      have hat : '@' ∉ authority (url.rest ++ urls.flatMap Url.text) := fun h =>
        (mem_authority_append h).elim url.host_ok (not_mem_authority_urls urls)
      calc
        withoutUserinfo (text ++ (url :: urls).flatMap Url.text) =
            withoutUserinfo ((text ++ url.scheme) ++
              (schemeEnd ++ (url.credentials ++ (url.rest ++ urls.flatMap Url.text)))) := by
          rw [List.flatMap_cons, Url.text]
          simp only [List.append_assoc]
        _ = (text ++ url.scheme) ++
            (schemeEnd ++ (url.rest ++ (urls.map Url.safe).flatMap Url.text)) := by
          rw [withoutUserinfo_url hfree hscheme url hat, ih url.rest_ok]
        _ = text ++ ((url :: urls).map Url.safe).flatMap Url.text := by
          rw [List.map_cons, List.flatMap_cons, Url.text]
          simp only [List.append_assoc]
          rfl

/-- The text of the message without userinfos, from the parts of its text. -/
theorem Message.text_safe (message : Message) :
    message.safe.text = withoutUserinfo message.text :=
  (withoutUserinfo_urls message.urls message.before_ok).symm

theorem not_infix_filterParts (h : ∀ part ∈ parts, ¬ schemeEnd <:+: part) :
    ∀ part ∈ filterParts parts, ¬ schemeEnd <:+: part := by
  induction parts with
  | nil => exact h
  | cons part parts ih =>
      obtain ⟨hpart, hparts⟩ := List.forall_mem_cons.mp h
      rw [filterParts]
      split
      · exact List.forall_mem_cons.mpr ⟨not_infix_afterAt hpart, ih hparts⟩
      · split
        · exact ih hparts
        · exact List.forall_mem_cons.mpr ⟨hpart, ih hparts⟩

theorem suffix_dropUserinfo (part : List Char) : dropUserinfo part <:+ part := by
  obtain ⟨user, huser⟩ := List.rtakeWhile_suffix (· ≠ '@') (authority part)
  refine ⟨user, ?_⟩
  rw [dropUserinfo, ← List.append_assoc, huser]
  exact List.takeWhile_append_dropWhile

theorem not_infix_safeParts (h : ∀ part ∈ parts, ¬ schemeEnd <:+: part) :
    ∀ part ∈ safeParts before parts, ¬ schemeEnd <:+: part := by
  induction parts generalizing before with
  | nil => exact h
  | cons part parts ih =>
      obtain ⟨hpart, hparts⟩ := List.forall_mem_cons.mp h
      refine List.forall_mem_cons.mpr ⟨?_, ih hparts⟩
      split
      · exact fun hcontained => hpart (hcontained.trans (suffix_dropUserinfo part).isInfix)
      · exact hpart

theorem swFilter_intercalate (hpart : ¬ schemeEnd <:+: part)
    (hparts : ∀ part ∈ parts, ¬ schemeEnd <:+: part) :
    swFilter true (schemeEnd.intercalate (part :: parts)) =
      schemeEnd.intercalate (part :: filterParts parts) := by
  rw [swFilter, if_pos rfl, intercalate_eq_following, intercalate_eq_following,
    subUserinfo_part hpart, subUserinfo_following hparts]

theorem intercalate_inj (hpart : ¬ schemeEnd <:+: part) {left right : List (List Char)}
    (hleft : ∀ part ∈ left, ¬ schemeEnd <:+: part) (hright : ∀ part ∈ right, ¬ schemeEnd <:+: part) :
    schemeEnd.intercalate (part :: left) = schemeEnd.intercalate (part :: right) ↔ left = right := by
  constructor
  · intro h
    have hsplit := congrArg (splitBy schemeEnd) h
    rw [splitBy_intercalate schemeEnd_ne_nil schemeEnd_borderFree (List.cons_ne_nil _ _)
        (List.forall_mem_cons.mpr ⟨hpart, hleft⟩),
      splitBy_intercalate schemeEnd_ne_nil schemeEnd_borderFree (List.cons_ne_nil _ _)
        (List.forall_mem_cons.mpr ⟨hpart, hright⟩)] at hsplit
    exact (List.cons.inj hsplit).2
  · rintro rfl
    rfl

/-- Every message that the safe mode filters loses the userinfo of its URLs and nothing else, and a second pass
changes nothing, exactly if the first `@` after every `://` is the one of the URL's userinfo and the only one. -/
theorem safe_mode_removes_userinfo_iff (message : Message) :
    (swFilter true message.text = message.safe.text ∧
      swFilter true (swFilter true message.text) = swFilter true message.text) ↔
    Unambiguous message.text := by
  obtain ⟨part, parts, hsplit⟩ :=
    List.exists_cons_of_ne_nil (splitFrom_ne_nil schemeEnd 0 message.text)
  have hfree : ∀ p ∈ part :: parts, ¬ schemeEnd <:+: p := by
    intro p hp
    rw [← hsplit] at hp
    exact not_infix_of_mem_splitBy schemeEnd_ne_nil hp
  obtain ⟨hpart, hparts⟩ := List.forall_mem_cons.mp hfree
  have htext : schemeEnd.intercalate (part :: parts) = message.text := by
    rw [← hsplit]
    exact intercalate_splitBy schemeEnd_ne_nil message.text
  have hfiltered := not_infix_filterParts hparts
  rw [Message.text_safe, withoutUserinfo_eq hsplit, Unambiguous, show splitBy schemeEnd message.text =
    part :: parts from hsplit, ← htext, swFilter_intercalate hpart hparts,
    swFilter_intercalate hpart hfiltered, intercalate_inj hpart hfiltered (not_infix_safeParts hparts),
    intercalate_inj hpart (not_infix_filterParts hfiltered) hfiltered]
  exact oneAtEach_iff.symm

/-- A password that contains an `@`. -/
def urlWithTwoAts : Url where
  scheme := "http".toList
  userinfo := some "user:p@ss".toList
  rest := "host/".toList
  scheme_ok := ⟨'h', "ttp".toList, by decide, by decide, List.all_iff_forall_prop.mp (by decide)⟩
  userinfo_ok := by
    rintro user ⟨⟩
    exact List.all_iff_forall_prop.mp (by decide)
  host_ok := by decide
  rest_ok := urlFree_of_not_infix (by decide)

def messageWithTwoAts : Message := ⟨[], [urlWithTwoAts], urlFree_of_not_infix (by decide)⟩

/-- The end of the password stays in the log. -/
theorem safe_mode_leaks_password :
    ¬ (swFilter true messageWithTwoAts.text = messageWithTwoAts.safe.text ∧
      swFilter true (swFilter true messageWithTwoAts.text) =
        swFilter true messageWithTwoAts.text) := by
  decide

end SkyWalking
