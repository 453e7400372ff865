import Mathlib.Data.Bool.AllAny
import SkyWalking.Trace.Ignore

/-!
# Ignored methods

The entries of a list are alternatives of one expression without a group around them: `$` binds to the
last one only, and nothing is escaped.
-/

namespace SkyWalking

variable {lookup : List Char → Option Char}

/-- The two settings with a list of methods. -/
inductive MethodList where
  | http
  | grpc
  deriving DecidableEq, Repr

namespace MethodList

def setting (config : IgnoreConfig) : MethodList → String
  | .http => config.pluginHttpIgnoreMethod
  | .grpc => config.pluginGrpcIgnoredMethods

/-- `ignore_http_method_check` and `ignore_grpc_method_check`. -/
def check (lookup : List Char → Option Char) (config : IgnoreConfig) (method : String) :
    MethodList → Option Bool
  | .http => config.ignoreHttpMethodCheck lookup method
  | .grpc => config.ignoreGrpcMethodCheck lookup method

theorem check_eq (list : MethodList) (config : IgnoreConfig) (method : String) :
    list.check lookup config method =
      (Regex.compile lookup (IgnoreConfig.methods (list.setting config))).map
        fun regex => regex.accepts true method.toList := by
  cases list with
  | http => rfl
  | grpc => rfl

end MethodList

namespace IgnoreConfig

/-- The entries of a list, without the whitespace around them. -/
def entries (list : String) : List (List Char) :=
  (Text.split ',' list).map fun s => Text.strip s.toList

/-- The name equals one of the entries up to letter case. -/
def Listed (list method : String) : Prop :=
  ∃ entry ∈ entries list, entry.map Char.toLower = method.toList.map Char.toLower

instance (list method : String) : Decidable (Listed list method) :=
  inferInstanceAs (Decidable (∃ entry ∈ _, _))

structure AsciiList (list : String) : Prop where
  nonblank : ∀ entry ∈ entries list, entry ≠ []
  ascii : ∀ entry ∈ entries list, ∀ c ∈ entry, c.toNat < 128

/-- The text between `^` and `$`, in pieces that are expressions of their own. A piece may be an entry, several
of them if a group or a set reaches over the commas, or a part of one that has bars itself. -/
structure Cut (lookup : List Char → Option Char) (list : String) (pieces : List (List Char)) : Prop where
  nonempty : pieces ≠ []
  text : ['|'].intercalate pieces = ['|'].intercalate (entries list)
  stands : ∀ piece ∈ pieces, ∃ groups items, Regex.Stands lookup piece groups items

/-- All characters of the entries are read as themselves, except for dots. -/
def PlainList (list : String) : Prop :=
  ∀ entry ∈ entries list, ∀ c ∈ entry, Regex.IsLiteral c ∨ c = '.'

instance (list : String) : Decidable (PlainList list) :=
  @List.decidableBAll _ (fun entry => ∀ c ∈ entry, Regex.IsLiteral c ∨ c = '.')
    (fun entry => List.decidableBAll _ entry) (entries list)

structure MethodName (method : String) : Prop where
  nonempty : method ≠ ""
  ascii : ∀ c ∈ method.toList, c.toNat < 128
  line : '\n' ∉ method.toList

/-- `re` accepts the list, and one of the alternatives that it reads in it, those between the bars outside
of groups and sets, matches at the beginning of the name exactly if the name is listed. -/
def Tells (lookup : List Char → Option Char) (list method : String) : Prop :=
  ∃ regex, Regex.compile lookup (methods list) = some regex ∧
    ((∃ alternative ∈ regex.alternatives, alternative.accepts true method.toList) ↔ Listed list method)

/-- An entry is read as a text of its length: letters in either case, a dot as any character. -/
def ReadsAs (entry text : List Char) : Prop :=
  List.Forall₂ (fun c d => if c = '.' then d ≠ '\n' else c.toLower = d.toLower) entry text

/-- The name begins with a text that an entry before the last one is read as, or the last entry is read as
the whole name. -/
def Swallowed (list method : String) : Prop :=
  (∃ entry ∈ (entries list).dropLast, ∃ text, ReadsAs entry text ∧ text <+: method.toList) ∨
    ∃ entry ∈ (entries list).getLast?, ReadsAs entry method.toList

/-- The expression for a character of a plain entry. -/
def item (c : Char) : Regex := if c = '.' then .any else .char c

theorem spells_entry {entry : List Char} (hplain : ∀ c ∈ entry, Regex.IsLiteral c ∨ c = '.') :
    Regex.Spells lookup entry (entry.map item) := by
  induction entry with
  | nil => exact Regex.Spells.nil
  | cons c rest ih =>
      obtain ⟨hc, hrest⟩ := List.forall_mem_cons.mp hplain
      have hone : Regex.Spells lookup [c] [item c] := by
        by_cases hdot : c = '.'
        · rw [item, if_pos hdot, hdot]
          exact Regex.Spells.any
        · rw [item, if_neg hdot]
          exact Regex.Spells.char (hc.resolve_right hdot)
      exact hone.append (ih hrest)

theorem denotes_entry (entry : List Char) :
    Regex.Denotes true (Regex.seqAll (entry.map item)) (List.Forall₂ (fun c d =>
      if c = '.' then d ≠ '\n' else Regex.same (.ofIgnoreCase true) c d) entry) := by
  induction entry with
  | nil =>
      refine Regex.Denotes.nil.congr fun word => ?_
      constructor
      · rintro rfl
        exact .nil
      · intro h
        cases h
        rfl
  | cons c rest ih =>
      have hone : Regex.Denotes true (item c)
          (Regex.singles fun d => if c = '.' then d ≠ '\n' else Regex.same (.ofIgnoreCase true) c d) := by
        by_cases hdot : c = '.'
        · simp only [item, if_pos hdot]
          exact Regex.Denotes.any
        · simp only [item, if_neg hdot]
          exact Regex.Denotes.char c
      refine (hone.seq ih).congr fun word => ?_
      constructor
      · rintro ⟨_, ⟨d, hd, rfl⟩, text, htext, rfl⟩
        exact .cons hd htext
      · intro h
        cases h with
        | @cons _ d _ text hd htext => exact ⟨[d], ⟨d, hd, rfl⟩, text, htext, rfl⟩

/-- Between ASCII characters, only those of one letter count as the same. -/
theorem same_iff_of_ascii {c d : Char} (hc : c.toNat < 128) (hd : d.toNat < 128) :
    Regex.same (.ofIgnoreCase true) c d ↔ c.toLower = d.toLower := by
  have hfold : ∀ {e : Char}, e.toNat < 128 → Regex.fold (.ofIgnoreCase true) e = e.toLower := by
    intro e he
    have hne : ∀ code ∈ [0x130, 0x131, 0x17f, 0x212a], e ≠ Char.ofNat code := by
      rintro code hcode rfl
      have hall : ∀ code ∈ [0x130, 0x131, 0x17f, 0x212a], ¬ (Char.ofNat code).toNat < 128 := by decide
      exact hall code hcode he
    simp only [List.mem_cons, List.not_mem_nil, or_false, forall_eq_or_imp, forall_eq] at hne
    obtain ⟨h₁, h₂, h₃, h₄⟩ := hne
    have hascii : Regex.Flag.ascii ∉ Regex.Flags.ofIgnoreCase true := by decide
    rw [Regex.fold, if_neg hascii, if_neg (not_or.mpr ⟨h₁, h₂⟩), if_neg h₃, if_neg h₄]
  rw [Regex.same, hfold hc, hfold hd]
  simp only [Regex.Flags.ofIgnoreCase, if_true, List.mem_singleton, decide_true, Bool.true_and,
    Bool.or_eq_true, decide_eq_true_eq, or_iff_right_iff_imp]
  exact congrArg Char.toLower

theorem readsAs_iff {entry text : List Char} (hentry : ∀ c ∈ entry, c.toNat < 128)
    (htext : ∀ d ∈ text, d.toNat < 128) :
    List.Forall₂ (fun c d => if c = '.' then d ≠ '\n' else Regex.same (.ofIgnoreCase true) c d) entry
      text ↔ ReadsAs entry text := by
  unfold ReadsAs
  rw [List.forall₂_iff_zip, List.forall₂_iff_zip]
  refine and_congr_right fun _ => ?_
  constructor
  · intro h c d hmem
    have hboth := List.of_mem_zip hmem
    rw [← same_iff_of_ascii (hentry c hboth.1) (htext d hboth.2)]
    exact h hmem
  · intro h c d hmem
    have hboth := List.of_mem_zip hmem
    rw [same_iff_of_ascii (hentry c hboth.1) (htext d hboth.2)]
    exact h hmem

/-- An entry reads itself, in any case of its letters. -/
theorem readsAs_of_toLower {entry text : List Char} (hline : '\n' ∉ text)
    (h : entry.map Char.toLower = text.map Char.toLower) : ReadsAs entry text := by
  induction entry generalizing text with
  | nil =>
      obtain rfl := List.map_eq_nil_iff.mp h.symm
      exact .nil
  | cons c rest ih =>
      cases text with
      | nil => cases h
      | cons d text =>
          rw [List.map_cons, List.map_cons, List.cons.injEq] at h
          refine .cons ?_ (ih (fun hmem => hline (List.mem_cons_of_mem _ hmem)) h.2)
          split
          · rintro rfl
            exact hline List.mem_cons_self
          · exact h.1

theorem swallowed_of_listed {list method : String} (hline : '\n' ∉ method.toList)
    (h : Listed list method) : Swallowed list method := by
  obtain ⟨entry, hentry, hsame⟩ := h
  have hreads := readsAs_of_toLower hline hsame
  obtain hnil | ⟨init, last, hconcat⟩ := List.eq_nil_or_concat (entries list)
  · rw [hnil] at hentry
    cases hentry
  · rw [List.concat_eq_append] at hconcat
    unfold Swallowed
    rw [hconcat] at hentry ⊢
    simp only [List.dropLast_concat, List.getLast?_concat, Option.mem_some_iff, exists_eq_left']
    obtain hinit | hlast := List.mem_append.mp hentry
    · exact .inl ⟨entry, hinit, method.toList, hreads, List.prefix_rfl⟩
    · obtain rfl := List.mem_singleton.mp hlast
      exact .inr hreads

theorem entries_ne_nil (list : String) : entries list ≠ [] := by
  rw [entries, Ne, List.map_eq_nil_iff]
  exact Text.split_ne_nil ',' list

theorem map_shift_item (entry : List Char) (offset : Nat) :
    (entry.map item).map (Regex.shift offset) = entry.map item := by
  rw [List.map_map]
  refine List.map_congr_left fun c _ => ?_
  rw [Function.comp_apply, item]
  split
  · rfl
  · rfl

theorem stands_entry {entry : List Char} (hplain : ∀ c ∈ entry, Regex.IsLiteral c ∨ c = '.') :
    Regex.Stands lookup entry [] (entry.map item) :=
  (spells_entry hplain).stands (map_shift_item entry)

theorem PlainList.cut {list : String} (hlist : PlainList list) : Cut lookup list (entries list) where
  nonempty := entries_ne_nil list
  text := rfl
  stands entry hentry := ⟨_, _, stands_entry (hlist entry hentry)⟩

/-- In plain entries only the dots make a difference. -/
theorem matchesPieces_iff_swallowed {list method : String} (hlist : PlainList list)
    (hascii : AsciiList list) (hmethod : MethodName method) :
    Regex.MatchesPieces lookup true (entries list) method.toList ↔ Swallowed list method := by
  have hstands : ∀ entry ∈ entries list, Regex.Stands lookup entry [] (entry.map item) :=
    fun entry hentry => stands_entry (hlist entry hentry)
  refine or_congr (exists_congr fun entry => and_congr_right fun hentry => ?_)
    (exists_congr fun entry => and_congr_right fun hentry => ?_)
  · have hmem := List.mem_of_mem_dropLast hentry
    rw [(hstands entry hmem).matches_iff 0, map_shift_item,
      Regex.accepts_of_denotes (denotes_entry entry)]
    refine exists_congr fun text => and_congr_left fun hbegin => ?_
    exact readsAs_iff (hascii.ascii entry hmem) fun d hd => hmethod.ascii d (hbegin.subset hd)
  · have hmem := List.mem_of_getLast? hentry
    rw [(hstands entry hmem).matches_dollar_iff 0, map_shift_item,
      Regex.accepts_eol (denotes_entry entry) hmethod.line]
    exact readsAs_iff (hascii.ascii entry hmem) hmethod.ascii

theorem check_eq_iff_tells (config : IgnoreConfig) (list : MethodList) (method : String) :
    list.check lookup config method = some (decide (Listed (list.setting config) method)) ↔
      Tells lookup (list.setting config) method := by
  rw [list.check_eq, Option.map_eq_some_iff]
  refine exists_congr fun regex => and_congr_right fun _ => ?_
  rw [← Regex.accepts_iff_alternatives, Bool.eq_iff_iff, decide_eq_true_eq]

theorem check_eq_iff_matchesPieces {config : IgnoreConfig} {list : MethodList} {pieces : List (List Char)}
    (hcut : Cut lookup (list.setting config) pieces) (method : String) :
    list.check lookup config method = some (decide (Listed (list.setting config) method)) ↔
      (Regex.MatchesPieces lookup true pieces method.toList ↔ Listed (list.setting config) method) := by
  have hmethods : methods (list.setting config) = '^' :: ['|'].intercalate pieces ++ ['$'] := by
    rw [hcut.text]
    rfl
  obtain ⟨regex, hregex, hmatches⟩ := Regex.compile_pieces hcut.nonempty hcut.stands true
  rw [list.check_eq, hmethods, hregex, Option.map_some, Option.some.injEq, Bool.eq_iff_iff,
    decide_eq_true_eq, hmatches]

/-- **Ignored methods.** A name is treated as it should be exactly if the list, read as one expression, tells
it from the names that are not listed. However the list is cut into expressions of their own, that is so if
what is matched, by all but the last of them at the beginning of the name, is what is listed. Plain entries
match what they list, so there no part of another name must be mistaken for an entry. -/
theorem ignored_method_iff (lookup : List Char → Option Char) (config : IgnoreConfig) (list : MethodList)
    (method : String) (hlist : AsciiList (list.setting config)) (hmethod : MethodName method) :
    (list.check lookup config method = some (decide (Listed (list.setting config) method)) ↔
      Tells lookup (list.setting config) method) ∧
    (∀ pieces, Cut lookup (list.setting config) pieces →
      (list.check lookup config method = some (decide (Listed (list.setting config) method)) ↔
        (Regex.MatchesPieces lookup true pieces method.toList ↔ Listed (list.setting config) method))) ∧
    (PlainList (list.setting config) →
      (list.check lookup config method = some (decide (Listed (list.setting config) method)) ↔
        Listed (list.setting config) method ∨ ¬ Swallowed (list.setting config) method)) := by
  refine ⟨check_eq_iff_tells config list method,
    fun pieces hcut => check_eq_iff_matchesPieces hcut method, fun hplain => ?_⟩
  rw [check_eq_iff_matchesPieces hplain.cut, matchesPieces_iff_swallowed hplain hlist hmethod]
  constructor
  · intro h
    by_cases hswallowed : Swallowed (list.setting config) method
    · exact .inl (h.mp hswallowed)
    · exact .inr hswallowed
  · rintro (hlisted | hswallowed)
    · exact iff_of_true (swallowed_of_listed hmethod.line hlisted) hlisted
    · exact iff_of_false hswallowed fun h => hswallowed (swallowed_of_listed hmethod.line h)

/-- The example in the documentation of the setting. -/
def documented : IgnoreConfig :=
  { agentIgnoreSuffix := ""
    agentTraceIgnorePath := ""
    pluginHttpIgnoreMethod := "GET, POST"
    pluginGrpcIgnoredMethods := "/package.Service/Method1,/package.Service/Method2" }

theorem asciiList_documented (list : MethodList) : AsciiList (list.setting documented) := by
  have hascii : (entries (list.setting documented)).all fun entry =>
      entry.all fun c => c.toNat < 128 := by
    cases list with
    | http => decide +kernel
    | grpc => decide +kernel
  constructor
  · cases list with
    | http => decide +kernel
    | grpc => decide +kernel
  · exact fun entry hentry => List.all_iff_forall_prop.mp (List.all_eq_true.mp hascii entry hentry)

theorem method1_ignored :
    MethodList.grpc.check noNames documented "/PACKAGE.Service/method1" =
      some (decide (Listed documented.pluginGrpcIgnoredMethods "/PACKAGE.Service/method1")) := by
  have hexact := ignored_method_iff noNames documented .grpc "/PACKAGE.Service/method1"
    (asciiList_documented .grpc) ⟨by decide, List.all_iff_forall_prop.mp (by decide), by decide⟩
  exact (hexact.2.2 (by decide +kernel)).mpr (.inl (by decide +kernel))

/-- A method whose name continues an entry before the last one is ignored with it. -/
theorem method10_ignored :
    ¬ ∀ (lookup : List Char → Option Char) (config : IgnoreConfig) (list : MethodList) (method : String),
      AsciiList (list.setting config) → MethodName method →
      list.check lookup config method = some (decide (Listed (list.setting config) method)) := by
  intro h
  have hcheck := h noNames documented .grpc "/package.Service/Method10" (asciiList_documented .grpc)
    ⟨by decide, List.all_iff_forall_prop.mp (by decide), by decide⟩
  have hignored : MethodList.grpc.check noNames documented "/package.Service/Method10" = some true := by
    decide +kernel
  have hlisted : ¬ Listed documented.pluginGrpcIgnoredMethods "/package.Service/Method10" := by
    decide +kernel
  rw [hignored, Option.some.injEq, eq_comm, decide_eq_true_eq] at hcheck
  exact hlisted hcheck

end IgnoreConfig

end SkyWalking
