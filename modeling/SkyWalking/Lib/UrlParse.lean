import Mathlib.Data.List.TakeWhile
import SkyWalking.Lib.Case
import SkyWalking.Lib.IpAddress

/-!
# URLs in parts

What `urllib.parse` reads of a text and how it puts the parts together again.
-/

namespace UrlParse

open Text

/-- What stands in front of the first separator. -/
def before (separator : Char) (text : List Char) : List Char := text.takeWhile (· ≠ separator)

/-- What stands behind the first separator. -/
def after (separator : Char) (text : List Char) : List Char := (text.dropWhile (· ≠ separator)).drop 1

structure ParseResult where
  scheme : List Char
  netloc : List Char
  path : List Char
  params : List Char
  query : List Char
  fragment : List Char
  deriving DecidableEq, Repr

/-- `netloc.rpartition('@')[2]`. -/
def hostInfo (netloc : List Char) : List Char := netloc.rtakeWhile (· ≠ '@')

def isBracketed (netloc : List Char) : Bool := '[' ∈ hostInfo netloc

/-- `_hostinfo[0]`. -/
def hostText (netloc : List Char) : List Char :=
  if isBracketed netloc then before ']' (after '[' (hostInfo netloc)) else before ':' (hostInfo netloc)

/-- `_hostinfo[1]`. -/
def portText (netloc : List Char) : List Char :=
  if isBracketed netloc then after ':' (after ']' (after '[' (hostInfo netloc)))
  else after ':' (hostInfo netloc)

/-- A zone keeps its case. -/
def lowerHost (host : List Char) : List Char := lower (before '%' host) ++ host.dropWhile (· ≠ '%')

def hostname (netloc : List Char) : Option (List Char) :=
  if hostText netloc = [] then none else some (lowerHost (hostText netloc))

/-- The port, if there is one; `none` where it is read with a `ValueError`. -/
def port (limit : Nat) (netloc : List Char) : Option (Option Int) :=
  if portText netloc = [] then some none
  else if (portText netloc).all Char.isDigit then
    (intWithin? limit (String.ofList (portText netloc))).bind fun port =>
      if 0 ≤ port ∧ port ≤ 65535 then some (some port) else none
  else none

/-- The expression `\Av[a-fA-F0-9]+\..+\Z`. -/
def isIpvFuture (hostname : List Char) : Bool :=
  let version := (hostname.drop 1).takeWhile IpAddress.isHexDigit
  let rest := (hostname.drop 1).dropWhile IpAddress.isHexDigit
  hostname.head? = some 'v' && version ≠ [] && rest.head? = some '.' && rest.drop 1 ≠ [] &&
    '\n' ∉ rest

/-- `_check_bracketed_host`. -/
def checkBracketedHost (hostname : List Char) : Bool :=
  if hostname.head? = some 'v' then isIpvFuture hostname
  else match IpAddress.ipAddress? hostname with
    | some (.v6 _) => true
    | _ => false

def checkBrackets (netloc : List Char) : Bool :=
  if '[' ∈ netloc ∧ ']' ∉ netloc ∨ ']' ∈ netloc ∧ '[' ∉ netloc then false
  else if '[' ∈ netloc ∧ ']' ∈ netloc then checkBracketedHost (before ']' (after '[' netloc))
  else true

/-- The characters outside ASCII that become one of `/?#@:`, or a text with one of them, under NFKC. -/
def lookalikes : List Nat :=
  [0x2047, 0x2048, 0x2049, 0x2100, 0x2101, 0x2105, 0x2106, 0x2A74, 0xFE13, 0xFE16, 0xFE55, 0xFE56,
   0xFE5F, 0xFE6B, 0xFF03, 0xFF0F, 0xFF1A, 0xFF1F, 0xFF20]

/-- `_checknetloc`. -/
def checkNetloc (netloc : List Char) : Bool := netloc.all fun c => c.toNat ∉ lookalikes

def isNetloc (netloc : List Char) : Bool := checkBrackets netloc && checkNetloc netloc

/-- C0 controls and the blank. -/
def isControlOrSpace (c : Char) : Bool := c.toNat ≤ 32

/-- `_UNSAFE_URL_BYTES_TO_REMOVE`. -/
def isUnsafe (c : Char) : Bool := c = '\t' || c = '\r' || c = '\n'

/-- `scheme_chars`. -/
def isSchemeChar (c : Char) : Bool := c.isAlphanum || c = '+' || c = '-' || c = '.'

def usesParams : List (List Char) :=
  ["", "ftp", "hdl", "prospero", "http", "imap", "https", "shttp", "rtsp", "rtsps", "rtspu", "sip",
    "sips", "mms", "sftp", "tel"].map String.toList

def usesNetloc : List (List Char) :=
  ["", "ftp", "http", "gopher", "nntp", "telnet", "imap", "wais", "file", "mms", "https", "shttp",
    "snews", "prospero", "rtsp", "rtsps", "rtspu", "rsync", "svn", "svn+ssh", "sftp", "nfs", "git",
    "git+ssh", "ws", "wss"].map String.toList

/-- The scheme, which is ASCII, in lower case, and what stands behind its colon. -/
def splitScheme (url : List Char) : List Char × List Char :=
  if ':' ∈ url ∧ (url.head?.any Char.isAlpha) ∧ (before ':' url).all isSchemeChar then
    ((before ':' url).map Char.toLower, after ':' url)
  else ([], url)

def isNetlocEnd (c : Char) : Bool := c = '/' || c = '?' || c = '#'

/-- `_splitnetloc(url, 2)`. -/
def splitNetloc (url : List Char) : List Char × List Char :=
  if url.take 2 = ['/', '/'] then
    ((url.drop 2).takeWhile fun c => !isNetlocEnd c, (url.drop 2).dropWhile fun c => !isNetlocEnd c)
  else ([], url)

/-- `_splitparams`. The parameters stand behind the last slash. -/
def splitParams (url : List Char) : List Char × List Char :=
  (url.rdropWhile (· ≠ '/') ++ before ';' (url.rtakeWhile (· ≠ '/')),
    after ';' (url.rtakeWhile (· ≠ '/')))

def splitPath (scheme url : List Char) : List Char × List Char :=
  if scheme ∈ usesParams ∧ ';' ∈ url then splitParams url else (url, [])

/-- `none` where it raises `ValueError`. -/
def urlparse (url : List Char) : Option ParseResult :=
  let url := (url.dropWhile isControlOrSpace).filter fun c => !isUnsafe c
  let (scheme, url) := splitScheme url
  let (netloc, url) := splitNetloc url
  if isNetloc netloc then
    let (url, fragment) := (before '#' url, after '#' url)
    let (url, query) := (before '?' url, after '?' url)
    let (path, params) := splitPath scheme url
    some ⟨scheme, netloc, path, params, query, fragment⟩
  else none

/-- A part that is not empty, with the separator in front of it. -/
def behind (separator : Char) (part : List Char) : List Char :=
  if part = [] then [] else separator :: part

def urlunparse (p : ParseResult) : List Char :=
  let url := p.path ++ behind ';' p.params
  let url :=
    if p.netloc ≠ [] ∨ (p.scheme ≠ [] ∧ p.scheme ∈ usesNetloc) ∨ url.take 2 = ['/', '/'] then
      ['/', '/'] ++ (p.netloc ++ if url ≠ [] ∧ url.head? ≠ some '/' then '/' :: url else url)
    else url
  let url := if p.scheme = [] then url else p.scheme ++ ':' :: url
  url ++ (behind '?' p.query ++ behind '#' p.fragment)

section Separators

variable {separator c : Char} {text front part rest : List Char}

theorem before_of_not_mem (h : separator ∉ text) : before separator text = text :=
  List.takeWhile_eq_self_iff.mpr (ne_of_not_mem h)

theorem after_of_not_mem (h : separator ∉ text) : after separator text = [] := by
  have hnone : text.dropWhile (· ≠ separator) = [] := List.dropWhile_eq_nil_iff.mpr (ne_of_not_mem h)
  rw [after, hnone, List.drop_nil]

theorem before_append (h : separator ∉ front) : before separator (front ++ separator :: rest) = front := by
  rw [before, List.takeWhile_append_of_pos (ne_of_not_mem h), List.takeWhile_cons_of_neg (by simp),
    List.append_nil]

theorem after_append (h : separator ∉ front) : after separator (front ++ separator :: rest) = rest := by
  rw [after, List.dropWhile_append_of_pos (ne_of_not_mem h), List.dropWhile_cons_of_neg (by simp),
    List.drop_one, List.tail_cons]

theorem before_append_behind (h : separator ∉ front) :
    before separator (front ++ behind separator part) = front := by
  rw [behind]
  split
  · rw [List.append_nil, before_of_not_mem h]
  · exact before_append h

theorem after_append_behind (h : separator ∉ front) :
    after separator (front ++ behind separator part) = part := by
  rw [behind]
  split
  · next hnil => rw [List.append_nil, after_of_not_mem h, hnil]
  · exact after_append h

theorem mem_before (h : c ∈ before separator text) : c ∈ text ∧ c ≠ separator := by
  constructor
  · exact (List.takeWhile_sublist _).subset h
  · have hne := List.mem_takeWhile_imp (p := fun c => decide (c ≠ separator)) h
    exact of_decide_eq_true hne

theorem mem_after (h : c ∈ after separator text) : c ∈ text :=
  (List.dropWhile_suffix _).subset ((List.drop_suffix 1 _).subset h)

theorem not_mem_before : separator ∉ before separator text := fun h => (mem_before h).2 rfl

theorem eq_before_append (h : separator ∈ text) :
    text = before separator text ++ separator :: after separator text := by
  induction text with
  | nil => cases h
  | cons c rest ih =>
      by_cases hc : c = separator
      · simp [before, after, hc]
      · have hrest : separator ∈ rest := (List.mem_cons.mp h).resolve_left fun heq => hc heq.symm
        have hbefore : before separator (c :: rest) = c :: before separator rest := by
          simp [before, hc]
        have hafter : after separator (c :: rest) = after separator rest := by simp [after, hc]
        rw [hbefore, hafter, List.cons_append, ← ih hrest]

end Separators

/-- The path with its parameters. -/
def ParseResult.fullPath (p : ParseResult) : List Char := p.path ++ behind ';' p.params

def IsScheme (scheme : List Char) : Prop :=
  scheme.head?.any Char.isAlpha = true ∧ ∀ c ∈ scheme, isSchemeChar c = true ∧ c.toLower = c

/-- What the parts of a text look like. -/
structure Parsed (p : ParseResult) : Prop where
  scheme : p.scheme = [] ∨ IsScheme p.scheme
  netloc : ∀ c ∈ p.netloc, isNetlocEnd c = false
  absolute : p.netloc ≠ [] → p.fullPath = [] ∨ p.fullPath.head? = some '/'
  splitPath : splitPath p.scheme p.fullPath = (p.path, p.params)
  no_query : '?' ∉ p.fullPath
  no_fragment : '#' ∉ p.fullPath ++ behind '?' p.query
  safe : ∀ c ∈ p.netloc ++ (p.fullPath ++ (p.query ++ p.fragment)), isUnsafe c = false

theorem toNat_of_isAlpha {c : Char} (h : c.isAlpha = true) : 65 ≤ c.toNat ∧ c.toNat < 128 := by
  obtain h | h := (Bool.or_eq_true _ _).mp h
  · have hupper : 65 ≤ c.toNat ∧ c.toNat ≤ 90 := of_decide_eq_true h
    omega
  · obtain ⟨hfirst, hlast⟩ := (Bool.and_eq_true _ _).mp h
    have hlower : 97 ≤ c.toNat ∧ c.toNat ≤ 122 := ⟨of_decide_eq_true hfirst, of_decide_eq_true hlast⟩
    omega

theorem mem_behind {separator c : Char} {part : List Char} (h : c ∈ behind separator part) :
    c = separator ∨ c ∈ part := by
  rw [behind] at h
  split at h
  · cases h
  · exact List.mem_cons.mp h

theorem isUnsafe_eq_false {c : Char} (h : isSchemeChar c = true) : isUnsafe c = false := by
  rw [Bool.eq_false_iff]
  intro hunsafe
  simp only [isUnsafe, Bool.or_eq_true, decide_eq_true_eq] at hunsafe
  obtain (rfl | rfl) | rfl := hunsafe
  · exact absurd h (by decide)
  · exact absurd h (by decide)
  · exact absurd h (by decide)

/-- The two slashes and what follows them. -/
def ParseResult.hierarchy (p : ParseResult) : List Char :=
  '/' :: '/' :: (p.netloc ++ (p.fullPath ++ (behind '?' p.query ++ behind '#' p.fragment)))

namespace Parsed

variable {p : ParseResult} (h : Parsed p)

include h

theorem urlunparse_eq (hne : p.netloc ≠ []) : urlunparse p =
    if p.scheme = [] then p.hierarchy else p.scheme ++ ':' :: p.hierarchy := by
  have hpath : ¬ (p.fullPath ≠ [] ∧ p.fullPath.head? ≠ some '/') := by
    rw [not_and_not_right]
    exact (h.absolute hne).resolve_left
  have hurl : p.path ++ behind ';' p.params = p.fullPath := rfl
  simp only [urlunparse, hurl, if_pos (Or.inl hne), if_neg hpath]
  split
  · simp [ParseResult.hierarchy]
  · simp [ParseResult.hierarchy]

theorem safe_hierarchy : ∀ c ∈ p.hierarchy, isUnsafe c = false := by
  intro c hc
  simp only [ParseResult.hierarchy, List.mem_cons, List.mem_append] at hc
  obtain rfl | rfl | hc | hc | hc | hc := hc
  · decide
  · decide
  · exact h.safe c (by simp [hc])
  · exact h.safe c (by simp [hc])
  · obtain rfl | hc := mem_behind hc
    · decide
    · exact h.safe c (by simp [hc])
  · obtain rfl | hc := mem_behind hc
    · decide
    · exact h.safe c (by simp [hc])

theorem safe_urlunparse (hne : p.netloc ≠ []) : ∀ c ∈ urlunparse p, isUnsafe c = false := by
  rw [h.urlunparse_eq hne]
  split
  · exact h.safe_hierarchy
  · next hscheme =>
    obtain ⟨-, hchars⟩ := h.scheme.resolve_left hscheme
    intro c hc
    obtain hc | hc := List.mem_append.mp hc
    · exact isUnsafe_eq_false (hchars c hc).1
    · obtain rfl | hc := List.mem_cons.mp hc
      · decide
      · exact h.safe_hierarchy c hc

/-- Nothing is dropped at the front. -/
theorem dropWhile_urlunparse (hne : p.netloc ≠ []) :
    (urlunparse p).dropWhile isControlOrSpace = urlunparse p := by
  rw [h.urlunparse_eq hne]
  split
  · exact List.dropWhile_cons_of_neg (by decide)
  · next hscheme =>
    obtain ⟨letter, rest, hcons⟩ := List.exists_cons_of_ne_nil hscheme
    obtain ⟨hhead, -⟩ := h.scheme.resolve_left hscheme
    rw [hcons, List.head?_cons, Option.any_some] at hhead
    rw [hcons, List.cons_append]
    apply List.dropWhile_cons_of_neg
    rw [isControlOrSpace, decide_eq_true_iff, Nat.not_le]
    have hletter := toNat_of_isAlpha hhead
    omega

theorem splitScheme_urlunparse (hne : p.netloc ≠ []) :
    splitScheme (urlunparse p) = (p.scheme, p.hierarchy) := by
  rw [h.urlunparse_eq hne]
  split
  · next hscheme =>
    have hletter : ¬ (':' ∈ p.hierarchy ∧ p.hierarchy.head?.any Char.isAlpha = true ∧
        (before ':' p.hierarchy).all isSchemeChar = true) := by
      rintro ⟨-, hhead, -⟩
      rw [ParseResult.hierarchy, List.head?_cons] at hhead
      exact absurd hhead (by decide)
    rw [splitScheme, if_neg hletter, hscheme]
  · next hscheme =>
    obtain ⟨hhead, hchars⟩ := h.scheme.resolve_left hscheme
    have hcolon : ':' ∉ p.scheme := fun hmem => absurd (hchars ':' hmem).1 (by decide)
    have hfirst : (p.scheme ++ ':' :: p.hierarchy).head? = p.scheme.head? :=
      List.head?_append_of_ne_nil _ hscheme
    have hlower : p.scheme.map Char.toLower = p.scheme :=
      (List.map_congr_left fun c hc => (hchars c hc).2).trans (List.map_id' _)
    rw [splitScheme, before_append hcolon, after_append hcolon, hfirst, hlower, if_pos]
    exact ⟨by simp, hhead, List.all_eq_true.mpr fun c hc => (hchars c hc).1⟩

theorem splitNetloc_hierarchy (hne : p.netloc ≠ []) : splitNetloc p.hierarchy =
    (p.netloc, p.fullPath ++ (behind '?' p.query ++ behind '#' p.fragment)) := by
  have hkeep : ∀ c ∈ p.netloc, (!isNetlocEnd c) = true := fun c hc => by rw [h.netloc c hc]; rfl
  have hend : ∀ c, (p.fullPath ++ (behind '?' p.query ++ behind '#' p.fragment)).head? = some c →
      isNetlocEnd c = true := by
    intro c hc
    obtain hnil | hslash := h.absolute hne
    · rw [hnil, List.nil_append, behind, behind] at hc
      split at hc
      · split at hc
        · cases hc
        · cases hc
          decide
      · cases hc
        decide
    · have hfull : p.fullPath ≠ [] := by
        rintro hnil
        rw [hnil] at hslash
        cases hslash
      rw [List.head?_append_of_ne_nil _ hfull, hslash] at hc
      cases hc
      decide
  rw [splitNetloc, ParseResult.hierarchy, if_pos (by rfl), List.drop_succ_cons, List.drop_succ_cons,
    List.drop_zero, List.takeWhile_append_of_pos hkeep, List.dropWhile_append_of_pos hkeep]
  cases htail : p.fullPath ++ (behind '?' p.query ++ behind '#' p.fragment) with
  | nil => simp
  | cons c rest =>
      have hc : isNetlocEnd c = true := hend c (by rw [htail, List.head?_cons])
      simp [hc]

/-- The parts are read again, if there is something between the slashes. -/
theorem urlparse_urlunparse (hne : p.netloc ≠ []) :
    urlparse (urlunparse p) = if isNetloc p.netloc then some p else none := by
  have hfilter : ((urlunparse p).filter fun c => !isUnsafe c) = urlunparse p :=
    List.filter_eq_self.mpr fun c hc => by rw [h.safe_urlunparse hne c hc]; rfl
  have htail : p.fullPath ++ (behind '?' p.query ++ behind '#' p.fragment) =
      (p.fullPath ++ behind '?' p.query) ++ behind '#' p.fragment := (List.append_assoc _ _ _).symm
  rw [urlparse, h.dropWhile_urlunparse hne, hfilter]
  simp only [h.splitScheme_urlunparse hne, h.splitNetloc_hierarchy hne, htail,
    before_append_behind h.no_fragment, after_append_behind h.no_fragment,
    before_append_behind h.no_query, after_append_behind h.no_query, h.splitPath]

end Parsed

section Path

variable {scheme url start segment path params : List Char}

theorem splitParams_append (hstart : ∀ last, start.getLast? = some last → last = '/')
    (hsegment : '/' ∉ segment) :
    splitParams (start ++ segment) = (start ++ before ';' segment, after ';' segment) := by
  have htake : (start ++ segment).rtakeWhile (· ≠ '/') = segment := by
    rw [rtakeWhile_append fun last hlast => by simp [hstart last hlast]]
    exact List.rtakeWhile_eq_self_iff.mpr (ne_of_not_mem hsegment)
  have hdrop : (start ++ segment).rdropWhile (· ≠ '/') = start := by
    have hboth := List.rdropWhile_append_rtakeWhile (p := (· ≠ '/')) (l := start ++ segment)
    rw [htake] at hboth
    exact List.append_cancel_right hboth
  rw [splitParams, htake, hdrop]

/-- A text is cut behind its last slash. -/
theorem exists_segment (url : List Char) : ∃ start segment, url = start ++ segment ∧
    (∀ last, start.getLast? = some last → last = '/') ∧ '/' ∉ segment := by
  refine ⟨_, _, (List.rdropWhile_append_rtakeWhile (p := (· ≠ '/')) (l := url)).symm, ?_, ?_⟩
  · intro last hlast
    have hne : url.rdropWhile (· ≠ '/') ≠ [] := by
      rintro hnil
      rw [hnil] at hlast
      cases hlast
    have hnot := List.rdropWhile_last_not (· ≠ '/') url hne
    rw [List.getLast?_eq_some_getLast hne, Option.some.injEq] at hlast
    rw [hlast] at hnot
    simpa using hnot
  · intro hmem
    exact absurd (List.mem_rtakeWhile_imp hmem) (by decide)

/-- At most an empty list of parameters is left out. -/
theorem splitPath_spec (h : splitPath scheme url = (path, params)) :
    splitPath scheme (path ++ behind ';' params) = (path, params) ∧
      (path ++ behind ';' params = url ∨ path ++ behind ';' params ++ [';'] = url) := by
  by_cases hsplit : scheme ∈ usesParams ∧ ';' ∈ url
  · obtain ⟨start, segment, rfl, hstart, hsegment⟩ := exists_segment url
    have hwhole := h
    rw [splitPath, if_pos hsplit, splitParams_append hstart hsegment] at h
    obtain ⟨rfl, rfl⟩ := Prod.mk.inj h
    by_cases hmem : ';' ∈ segment
    · by_cases hnil : after ';' segment = []
      · -- nothing stands behind the semicolon
        have hcut := eq_before_append hmem
        rw [hnil] at hcut ⊢
        have hslash : '/' ∉ before ';' segment := fun h => hsegment (mem_before h).1
        rw [behind, if_pos rfl, List.append_nil]
        constructor
        · rw [splitPath]
          split
          · rw [splitParams_append hstart hslash, before_of_not_mem not_mem_before,
              after_of_not_mem not_mem_before]
          · rfl
        · right
          rw [List.append_assoc, ← hcut]
      · have hurl : start ++ before ';' segment ++ behind ';' (after ';' segment) =
            start ++ segment := by
          rw [behind, if_neg hnil, List.append_assoc, ← eq_before_append hmem]
        rw [hurl]
        exact ⟨hwhole, .inl rfl⟩
    · have hurl : start ++ before ';' segment ++ behind ';' (after ';' segment) =
          start ++ segment := by
        rw [after_of_not_mem hmem, before_of_not_mem hmem, behind, if_pos rfl, List.append_nil]
      rw [hurl]
      exact ⟨hwhole, .inl rfl⟩
  · have hwhole := h
    rw [splitPath, if_neg hsplit] at h
    obtain ⟨rfl, rfl⟩ := Prod.mk.inj h
    rw [behind, if_pos rfl, List.append_nil]
    exact ⟨hwhole, .inl rfl⟩

end Path

section Parse

variable {url text scheme netloc rest : List Char} {p : ParseResult}

theorem toNat_lt_of_isSchemeChar {c : Char} (h : isSchemeChar c = true) : c.toNat < 128 := by
  simp only [isSchemeChar, Bool.or_eq_true, decide_eq_true_eq] at h
  obtain ((h | rfl) | rfl) | rfl := h
  · obtain h | h := (Bool.or_eq_true _ _).mp h
    · exact (toNat_of_isAlpha h).2
    · exact (Char.isDigit_iff_toNat.mp h).2.trans_lt (by decide)
  · decide
  · decide
  · decide

theorem toLower_spec {c : Char} (h : isSchemeChar c = true) : isSchemeChar c.toLower = true ∧
    c.toLower.toLower = c.toLower ∧ (c.isAlpha = true → c.toLower.isAlpha = true) := by
  have hlower : isSchemeChar c.toLower = isSchemeChar c ∧ c.toLower.toLower = c.toLower ∧
      c.toLower.isAlpha = c.isAlpha := by
    apply forall_ascii (P := fun c => isSchemeChar c.toLower = isSchemeChar c ∧
      c.toLower.toLower = c.toLower ∧ c.toLower.isAlpha = c.isAlpha)
    · decide
    · exact toNat_lt_of_isSchemeChar h
  exact ⟨hlower.1.trans h, hlower.2.1, hlower.2.2.trans⟩

theorem splitScheme_spec (h : splitScheme text = (scheme, rest)) :
    (scheme = [] ∨ IsScheme scheme) ∧ ∀ c ∈ rest, c ∈ text := by
  rw [splitScheme] at h
  split at h
  · next hcond =>
    obtain ⟨-, hhead, hchars⟩ := hcond
    obtain ⟨rfl, rfl⟩ := Prod.mk.inj h
    refine ⟨.inr ⟨?_, ?_⟩, fun c hc => mem_after hc⟩
    · cases text with
      | nil => cases hhead
      | cons letter rest =>
          rw [List.head?_cons, Option.any_some] at hhead
          have hletter : letter ≠ ':' := by
            rintro rfl
            exact absurd hhead (by decide)
          have hscheme : isSchemeChar letter = true := by
            rw [isSchemeChar, Char.isAlphanum, hhead]
            rfl
          simp [before, hletter, (toLower_spec hscheme).2.2 hhead]
    · intro c hc
      obtain ⟨d, hd, rfl⟩ := List.mem_map.mp hc
      have hlower := toLower_spec (List.all_eq_true.mp hchars d hd)
      exact ⟨hlower.1, hlower.2.1⟩
  · obtain ⟨rfl, rfl⟩ := Prod.mk.inj h
    exact ⟨.inl rfl, fun c hc => hc⟩

theorem splitNetloc_spec (h : splitNetloc text = (netloc, rest)) :
    (∀ c ∈ netloc, isNetlocEnd c = false) ∧ (∀ c ∈ netloc ++ rest, c ∈ text) ∧
      (netloc ≠ [] → ∀ c, rest.head? = some c → isNetlocEnd c = true) := by
  rw [splitNetloc] at h
  split at h
  · obtain ⟨rfl, rfl⟩ := Prod.mk.inj h
    refine ⟨fun c hc => ?_, fun c hc => ?_, fun _ c hc => ?_⟩
    · simpa using List.mem_takeWhile_imp hc
    · rw [List.takeWhile_append_dropWhile] at hc
      exact List.mem_of_mem_drop hc
    · have hnot := List.head?_dropWhile_not (fun c => !isNetlocEnd c) (text.drop 2)
      rw [hc] at hnot
      simpa using hnot
  · obtain ⟨rfl, rfl⟩ := Prod.mk.inj h
    exact ⟨fun c hc => absurd hc List.not_mem_nil, fun c hc => hc, fun hne => absurd rfl hne⟩

/-- The path begins with a slash, if what follows the network location is not the query or the fragment. -/
theorem head?_path (hend : ∀ c, rest.head? = some c → isNetlocEnd c = true) :
    before '?' (before '#' rest) = [] ∨ (before '?' (before '#' rest)).head? = some '/' := by
  cases rest with
  | nil => exact .inl rfl
  | cons c rest =>
      have hc := hend c List.head?_cons
      simp only [isNetlocEnd, Bool.or_eq_true, decide_eq_true_eq] at hc
      obtain (rfl | rfl) | rfl := hc
      · right
        simp [before]
      · left
        simp [before]
      · left
        simp [before]

/-- What is read of a text are parts, with a network location that passes the checks. -/
theorem parsed_of_urlparse (h : urlparse url = some p) : Parsed p ∧ isNetloc p.netloc = true := by
  have hclean : ∀ c ∈ (url.dropWhile isControlOrSpace).filter fun c => !isUnsafe c,
      isUnsafe c = false := fun c hc => by simpa using (List.mem_filter.mp hc).2
  rw [urlparse] at h
  generalize (url.dropWhile isControlOrSpace).filter (fun c => !isUnsafe c) = text at h hclean
  obtain ⟨scheme, rest, hscheme⟩ : ∃ scheme rest, splitScheme text = (scheme, rest) := ⟨_, _, rfl⟩
  obtain ⟨netloc, tail, hnetloc⟩ : ∃ netloc tail, splitNetloc rest = (netloc, tail) := ⟨_, _, rfl⟩
  obtain ⟨path, params, hpath⟩ : ∃ path params,
      splitPath scheme (before '?' (before '#' tail)) = (path, params) := ⟨_, _, rfl⟩
  obtain ⟨hscheme_ok, hrest⟩ := splitScheme_spec hscheme
  obtain ⟨hnetloc_ok, htail, hend⟩ := splitNetloc_spec hnetloc
  obtain ⟨hagain, hfull⟩ := splitPath_spec hpath
  have hmem : ∀ c ∈ path ++ behind ';' params, c ∈ before '?' (before '#' tail) := by
    intro c hc
    obtain hfull | hfull := hfull
    · rwa [← hfull]
    · rw [← hfull]
      exact List.mem_append_left _ hc
  simp only [hscheme, hnetloc, hpath] at h
  split at h
  · next hchecked =>
    obtain rfl := Option.some.inj h
    refine ⟨⟨hscheme_ok, hnetloc_ok, ?_, hagain, ?_, ?_, ?_⟩, hchecked⟩
    · intro hne
      have hhead := head?_path (hend hne)
      obtain hfull | hfull := hfull
      · rwa [← hfull] at hhead
      · rw [← hfull] at hhead
        cases hcons : path ++ behind ';' params with
        | nil => exact .inl hcons
        | cons c _ =>
            rw [hcons] at hhead
            right
            simpa [ParseResult.fullPath, hcons] using hhead
    · exact fun hquery => not_mem_before (hmem '?' hquery)
    · intro hfragment
      obtain hfragment | hfragment := List.mem_append.mp hfragment
      · exact not_mem_before (mem_before (hmem '#' hfragment)).1
      · obtain heq | hquery := mem_behind hfragment
        · cases heq
        · exact not_mem_before (mem_after hquery)
    · have htext : ∀ c ∈ netloc ++ tail, isUnsafe c = false := fun c hc =>
        hclean c (hrest c (htail c hc))
      intro c hc
      apply htext
      simp only [ParseResult.fullPath, List.mem_append] at hc
      rw [List.mem_append]
      obtain hc | hc | hc | hc := hc
      · exact .inl hc
      · exact .inr (mem_before (mem_before (hmem c (List.mem_append.mpr hc))).1).1
      · exact .inr (mem_before (mem_after hc)).1
      · exact .inr (mem_after hc)
  · cases h

end Parse

section Host

variable {netloc host digits : List Char} {c : Char}

theorem mem_hostInfo (h : c ∈ hostInfo netloc) : c ∈ netloc :=
  (List.rtakeWhile_suffix (· ≠ '@') netloc).subset h

theorem hostInfo_of_not_mem (h : '@' ∉ netloc) : hostInfo netloc = netloc :=
  List.rtakeWhile_eq_self_iff.mpr (ne_of_not_mem h)

theorem not_mem_hostInfo : '@' ∉ hostInfo netloc := fun hmem =>
  absurd (List.mem_rtakeWhile_imp hmem) (by decide)

theorem mem_hostText (h : c ∈ hostText netloc) : c ∈ hostInfo netloc := by
  rw [hostText] at h
  split at h
  · exact mem_after (mem_before h).1
  · exact (mem_before h).1

theorem not_isLowerCase_of_mem (h : c ∈ ['@', '[', ']', ':', '%', '/', '?', '#', '\t', '\r', '\n']) :
    ¬ IsLowerCase c := by
  have hall : ∀ c ∈ ['@', '[', ']', ':', '%', '/', '?', '#', '\t', '\r', '\n'], ¬ IsLowerCase c :=
    List.all_iff_forall_prop.mp (by decide +kernel)
  exact hall c h

/-- The host and the port are read again. -/
theorem hostText_append (hat : '@' ∉ host ++ behind ':' digits) (hcolon : ':' ∉ host)
    (hopening : '[' ∉ host ++ behind ':' digits) :
    isBracketed (host ++ behind ':' digits) = false ∧
      hostText (host ++ behind ':' digits) = host ∧ portText (host ++ behind ':' digits) = digits := by
  have hbracketed : isBracketed (host ++ behind ':' digits) = false := by
    rw [isBracketed, hostInfo_of_not_mem hat]
    exact decide_eq_false hopening
  refine ⟨hbracketed, ?_, ?_⟩
  · rw [hostText, if_neg (by simp [hbracketed]), hostInfo_of_not_mem hat, before_append_behind hcolon]
  · rw [portText, if_neg (by simp [hbracketed]), hostInfo_of_not_mem hat, after_append_behind hcolon]

theorem mem_lowerHost (h : c ∈ lowerHost host) : c ∈ host ∨ IsLowerCase c := by
  rw [lowerHost, List.mem_append] at h
  obtain h | h := h
  · exact (mem_lower h).imp_left fun hmem => (mem_before hmem).1
  · exact .inl ((List.dropWhile_suffix _).subset h)

theorem mem_lowerHost_of_stable (hc : IsStable c) (hmem : c ∈ host) : c ∈ lowerHost host := by
  rw [lowerHost, List.mem_append]
  have hparts : c ∈ before '%' host ++ host.dropWhile (· ≠ '%') := by
    rwa [before, List.takeWhile_append_dropWhile]
  exact (List.mem_append.mp hparts).imp_left (mem_lower_of_stable hc)

theorem lowerHost_ne_nil (h : host ≠ []) : lowerHost host ≠ [] := by
  rw [lowerHost, Ne, List.append_eq_nil_iff, lower_eq_nil_iff, ← List.append_eq_nil_iff, before,
    List.takeWhile_append_dropWhile]
  exact h

/-- A host in lower case is left as it is. -/
theorem lowerHost_lowerHost (host : List Char) : lowerHost (lowerHost host) = lowerHost host := by
  have hzone : '%' ∉ lower (before '%' host) := fun hmem =>
    (mem_lower hmem).elim not_mem_before (not_isLowerCase_of_mem (by decide))
  have hafter : (lowerHost host).dropWhile (· ≠ '%') = host.dropWhile (· ≠ '%') := by
    rw [lowerHost, List.dropWhile_append_of_pos (ne_of_not_mem hzone), List.dropWhile_idempotent]
  have hbefore : before '%' (lowerHost host) = lower (before '%' host) := by
    have hparts : before '%' (lowerHost host) ++ host.dropWhile (· ≠ '%') = lowerHost host := by
      rw [← hafter]
      exact List.takeWhile_append_dropWhile
    exact List.append_cancel_right hparts
  calc lowerHost (lowerHost host)
      = lower (before '%' (lowerHost host)) ++ (lowerHost host).dropWhile (· ≠ '%') := rfl
    _ = lower (lower (before '%' host)) ++ host.dropWhile (· ≠ '%') := by rw [hbefore, hafter]
    _ = lowerHost host := by rw [lower_lower, lowerHost]

end Host

end UrlParse
