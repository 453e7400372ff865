import SkyWalking.Proof.IgnoreLemmas

/-!
# Ignored suffixes

A blank entry of the list leaves an empty alternative, and with it every name is ignored.
-/

namespace SkyWalking

open Computability

variable {config : IgnoreConfig} {name : List Char}

namespace IgnoreConfig

/-- The name is a text that is not empty, followed by an entry that is not blank. -/
def Suffixed (config : IgnoreConfig) (name : List Char) : Prop :=
  ∃ s ∈ Text.split ',' config.agentIgnoreSuffix, Text.strip s.toList ≠ [] ∧
    ∃ text, text ≠ [] ∧ name = text ++ Text.strip s.toList

/-- No entry is blank. -/
def NoBlankSuffix (config : IgnoreConfig) : Prop :=
  ∀ s ∈ Text.split ',' config.agentIgnoreSuffix, Text.strip s.toList ≠ []

instance (config : IgnoreConfig) : Decidable config.NoBlankSuffix :=
  inferInstanceAs (Decidable (∀ s ∈ _, _))

end IgnoreConfig

theorem denotes_chars (text : List Char) :
    Regex.Denotes false (Regex.seqAll (text.map Regex.char)) ({text} : Language Char) := by
  induction text with
  | nil => exact Regex.Denotes.nil
  | cons c rest ih =>
      refine ((Ant.denotes_char c).seq ih).congr fun word => ?_
      constructor
      · rintro ⟨_, rfl, _, rfl, rfl⟩
        rfl
      · rintro rfl
        exact ⟨[c], rfl, rest, rfl, rfl⟩

theorem accepts_suffixRegex (config : IgnoreConfig) (hline : '\n' ∉ name) :
    config.suffixRegex.accepts false name ↔
      ∃ s ∈ Text.split ',' config.agentIgnoreSuffix,
        ∃ text, text ≠ [] ∧ name = text ++ Text.strip s.toList := by
  have halternatives := Regex.Denotes.alternatives (Text.split_ne_nil ',' config.agentIgnoreSuffix)
    fun s _ => denotes_chars (Text.strip s.toList)
  have hitems : Regex.Denotes false (Regex.seqAll [.plus .any, .altAll _]) _ :=
    Regex.Denotes.any.plus.seq halternatives.single
  refine (Regex.accepts_bol.trans (Regex.accepts_eol hitems hline)).trans ?_
  constructor
  · rintro ⟨text, htext, _, ⟨s, hs, rfl⟩, rfl⟩
    exact ⟨s, hs, text, (Regex.mem_mul_kstar_singles.mp htext).1, rfl⟩
  · rintro ⟨s, hs, text, hne, rfl⟩
    refine Language.append_mem_mul (Regex.mem_mul_kstar_singles.mpr ⟨hne, fun d hd => ?_⟩) ⟨s, hs, rfl⟩
    rintro rfl
    exact hline (List.mem_append_left _ hd)

theorem accepts_of_suffixed (hline : '\n' ∉ name) (h : config.Suffixed name) :
    config.suffixRegex.accepts false name := by
  obtain ⟨s, hs, -, htext⟩ := h
  exact (accepts_suffixRegex config hline).mpr ⟨s, hs, htext⟩

/-- Behind a blank entry every name but the empty one is accepted. -/
theorem accepts_of_blank (hblank : ¬ config.NoBlankSuffix) (hline : '\n' ∉ name) (hne : name ≠ []) :
    config.suffixRegex.accepts false name := by
  simp only [IgnoreConfig.NoBlankSuffix, not_forall, not_not] at hblank
  obtain ⟨s, hs, hstrip⟩ := hblank
  exact (accepts_suffixRegex config hline).mpr ⟨s, hs, name, hne, by rw [hstrip, List.append_nil]⟩

theorem not_accepts_nil : ¬ config.suffixRegex.accepts false [] := by
  rw [accepts_suffixRegex config (by simp)]
  rintro ⟨s, -, text, hne, hnil⟩
  exact hne (List.append_eq_nil_iff.mp hnil.symm).1

/-- One name is treated as it should be, exactly if there is no blank entry, or the name is empty or to be
ignored anyway. -/
theorem accepts_iff_suffixed (hline : '\n' ∉ name) :
    (config.suffixRegex.accepts false name ↔ config.Suffixed name) ↔
      config.NoBlankSuffix ∨ name = [] ∨ config.Suffixed name := by
  constructor
  · intro h
    by_contra hnone
    rw [not_or, not_or] at hnone
    exact hnone.2.2 (h.mp (accepts_of_blank hnone.1 hline hnone.2.1))
  · rintro (hblank | rfl | hsuffixed)
    · constructor
      · intro h
        obtain ⟨s, hs, text, hne, rfl⟩ := (accepts_suffixRegex config hline).mp h
        exact ⟨s, hs, hblank s hs, text, hne, rfl⟩
      · exact accepts_of_suffixed hline
    · refine iff_of_false not_accepts_nil ?_
      exact fun h => not_accepts_nil (accepts_of_suffixed hline h)
    · exact iff_of_true (accepts_of_suffixed hline hsuffixed) hsuffixed

/-- A name of one character is not suffixed by anything. -/
theorem not_suffixed_singleton (c : Char) : ¬ config.Suffixed [c] := by
  rintro ⟨s, -, hblank, text, hne, hname⟩
  have hlength := congrArg List.length hname
  rw [List.length_append, List.length_singleton] at hlength
  have htext := List.length_pos_iff.mpr hne
  have hsuffix := List.length_pos_iff.mpr hblank
  omega

/-- **Ignored suffixes.** `RE_IGNORE_PATH` has an alternative for the suffixes; it matches the names that
end with one of them, and no others, exactly if no entry of the list is blank. -/
theorem ignored_suffix_iff (lookup : List Char → Option Char) (config : IgnoreConfig) :
    ∃ suffix path, config.reIgnorePath lookup = some (.alt suffix path) ∧
      Regex.compile lookup config.suffix = some suffix ∧
      ((∀ name : String, '\n' ∉ name.toList →
          (suffix.accepts false name.toList ↔ config.Suffixed name.toList)) ↔
        config.NoBlankSuffix) ∧
      ∀ name : String, '\n' ∉ name.toList →
        ((suffix.accepts false name.toList ↔ config.Suffixed name.toList) ↔
          config.NoBlankSuffix ∨ name = "" ∨ config.Suffixed name.toList) := by
  obtain ⟨items, hpath⟩ := config.exists_spells_path
  obtain ⟨hsuffix, -, hboth⟩ := config.reIgnorePath_eq hpath
  refine ⟨_, _, hboth, hsuffix, ⟨fun h => ?_, fun hblank name hline => ?_⟩, fun name hline => ?_⟩
  · obtain hblank | hnil | hsuffixed := (accepts_iff_suffixed (by decide)).mp (h "/" (by decide))
    · exact hblank
    · cases hnil
    · exact absurd hsuffixed (not_suffixed_singleton '/')
  · exact (accepts_iff_suffixed hline).mpr (.inl hblank)
  · rw [accepts_iff_suffixed hline, String.toList_eq_nil_iff]

/-- No suffix is to be ignored. -/
def IgnoreConfig.noSuffixes : IgnoreConfig :=
  { agentIgnoreSuffix := ""
    agentTraceIgnorePath := ""
    pluginHttpIgnoreMethod := ""
    pluginGrpcIgnoredMethods := "" }

/-- With an empty list every operation is ignored. -/
theorem empty_list_ignores_orders :
    ¬ ∀ (lookup : List Char → Option Char) (config : IgnoreConfig) (suffix path : Regex),
      config.reIgnorePath lookup = some (.alt suffix path) →
      Regex.compile lookup config.suffix = some suffix → ∀ name : String, '\n' ∉ name.toList →
        (suffix.accepts false name.toList ↔ config.Suffixed name.toList) := by
  intro h
  obtain ⟨items, hpath⟩ := @IgnoreConfig.exists_spells_path noNames IgnoreConfig.noSuffixes
  obtain ⟨hsuffix, -, hboth⟩ := IgnoreConfig.noSuffixes.reIgnorePath_eq hpath
  have haccepts : IgnoreConfig.noSuffixes.suffixRegex.accepts false "/orders".toList :=
    accepts_of_blank (by decide) (by decide) (by decide)
  obtain ⟨s, hs, hblank, -⟩ := (h _ _ _ _ hboth hsuffix "/orders" (by decide)).mp haccepts
  have hall : ∀ s ∈ Text.split ',' IgnoreConfig.noSuffixes.agentIgnoreSuffix,
      Text.strip s.toList = [] := by decide
  exact hblank (hall s hs)

end SkyWalking
