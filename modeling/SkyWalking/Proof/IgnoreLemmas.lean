import Mathlib.Data.Bool.AllAny
import SkyWalking.Trace.Ignore

/-!
# Ignored paths

The nested splits of a pattern come to the same as reading its tokens from left to right, each token is
written as an expression that denotes the texts it stands for, and so is the whole pattern.
-/

namespace SkyWalking

open Computability

variable {lookup : List Char → Option Char}

section Translate

/-- The part of an expression that is written for a token. -/
def Ant.Token.text : Ant.Token → List Char
  | .directories => "/(?:[^/]*/)*".toList
  | .path => "(?:(?:[^/]+/)*[^/]+)?".toList
  | .segment => "[^/]*".toList
  | .single => "[^/]".toList
  | .literal c => escapeRegex [c]

theorem escapeRegex_cons (c : Char) (rest : List Char) :
    escapeRegex (c :: rest) = escapeRegex [c] ++ escapeRegex rest := by
  simp [escapeRegex]

/-- `?` is replaced. -/
def singles (text : List Char) : List Char :=
  Text.mapParts "?".toList Ant.Token.single.text escapeRegex text

/-- `*` is replaced in what is left. -/
def segments (text : List Char) : List Char :=
  Text.mapParts "*".toList Ant.Token.segment.text singles text

/-- `**` is replaced in what is left. -/
def paths (text : List Char) : List Char :=
  Text.mapParts "**".toList Ant.Token.path.text segments text

variable (rest : List Char) {c : Char}

theorem singles_question : singles ('?' :: rest) = Ant.Token.single.text ++ singles rest :=
  @Text.mapParts_separator "?".toList _ _ rest (by decide) rfl

theorem singles_cons (hc : c ≠ '?') : singles (c :: rest) = escapeRegex [c] ++ singles rest := by
  refine Text.mapParts_cons ?_ fun first _ => escapeRegex_cons c first
  simp [hc.symm]

theorem segments_star : segments ('*' :: rest) = Ant.Token.segment.text ++ segments rest :=
  @Text.mapParts_separator "*".toList _ _ rest (by decide) rfl

theorem segments_question : segments ('?' :: rest) = Ant.Token.single.text ++ segments rest := by
  refine Text.mapParts_cons ?_ fun first _ => singles_question first
  simp

theorem segments_cons (hc : c ≠ '?') (hc' : c ≠ '*') :
    segments (c :: rest) = escapeRegex [c] ++ segments rest := by
  refine Text.mapParts_cons ?_ fun first _ => singles_cons first hc
  simp [hc'.symm]

theorem paths_stars : paths ('*' :: '*' :: rest) = Ant.Token.path.text ++ paths rest :=
  @Text.mapParts_separator "**".toList _ _ rest (by decide) rfl

theorem paths_star (hrest : ¬ ['*'] <+: rest) :
    paths ('*' :: rest) = Ant.Token.segment.text ++ paths rest := by
  refine Text.mapParts_cons ?_ fun first _ => segments_star first
  simpa using hrest

theorem paths_question : paths ('?' :: rest) = Ant.Token.single.text ++ paths rest := by
  refine Text.mapParts_cons ?_ fun first _ => segments_question first
  simp

theorem paths_cons (hc : c ≠ '?') (hc' : c ≠ '*') :
    paths (c :: rest) = escapeRegex [c] ++ paths rest := by
  refine Text.mapParts_cons ?_ fun first _ => segments_cons first hc hc'
  simp [hc'.symm]

/-- A pattern without whitespace is translated token by token. -/
theorem pathPattern_eq (pattern : List Char) (hspace : ∀ c ∈ pattern, ¬ Text.isspaceChar c) :
    IgnoreConfig.pathPattern pattern = (Ant.tokens pattern).flatMap Ant.Token.text := by
  have hstrip : IgnoreConfig.pathPattern pattern =
      Text.mapParts "/**/".toList Ant.Token.directories.text paths pattern := by
    refine congrArg _ (List.map_congr_left fun part hpart => ?_)
    have hpart' : ∀ c ∈ part, ¬ Text.isspaceChar c :=
      fun c hc => hspace c (Text.mem_of_mem_splitFrom hpart c hc)
    rw [Text.strip_of_not_isspaceChar hpart']
    rfl
  rw [hstrip]
  clear hstrip hspace
  induction pattern using Ant.tokens.induct with
  | case1 => rfl
  | case2 rest ih =>
      rw [Ant.tokens, List.flatMap_cons, ← ih]
      exact @Text.mapParts_separator "/**/".toList _ _ rest (by decide) rfl
  | case3 rest ih =>
      rw [Ant.tokens, List.flatMap_cons, ← ih]
      refine @Text.mapParts_begin _ _ _ rest ['*', '*'] _ ?_ fun first _ => paths_stars first
      rw [List.cons_append, List.singleton_append, Text.splitBy_cons (by simp),
        Text.splitBy_cons (by simp), List.modifyHead_modifyHead]
      rfl
  | case4 rest hrest ih =>
      rw [Ant.tokens, List.flatMap_cons, ← ih]
      · have hstar : ¬ ['*'] <+: rest := by
          rintro ⟨rest', rfl⟩
          exact hrest rest' rfl
        refine Text.mapParts_cons (by simp) fun first hfirst => paths_star first fun h => ?_
        exact hstar (h.trans hfirst)
      · exact hrest
  | case5 rest ih =>
      rw [Ant.tokens, List.flatMap_cons, ← ih]
      refine Text.mapParts_cons ?_ fun first _ => paths_question first
      simp
  | case6 c rest hslash hstars hstar hquestion ih =>
      rw [Ant.tokens, List.flatMap_cons, ← ih]
      · refine Text.mapParts_cons ?_ fun first _ => paths_cons first hquestion hstar
        rintro ⟨rest', heq⟩
        obtain ⟨rfl, rfl⟩ := List.cons.inj heq
        exact hslash rest' rfl rfl
      · exact hslash
      · exact hstars
      · exact hstar
      · exact hquestion

end Translate

/-- An escaped text is read as itself. -/
theorem spells_escapeRegex (text : List Char) :
    Regex.Spells lookup (escapeRegex text) (text.map Regex.char) := by
  have hone : ∀ c, Regex.Spells lookup (escapeRegex [c]) [.char c] := by
    intro c
    unfold escapeRegex
    rw [List.flatMap_singleton]
    split
    · next hspecial =>
        refine Regex.Spells.escaped ?_
        have hall : ∀ d ∈ ['.', '*', '+', '?', '^', '=', '!', ':', '$', '{', '}', '(', ')', '|', '[',
            ']', '\\'], ¬ d.isAlphanum := List.all_iff_forall_prop.mp (by decide)
        exact hall c hspecial
    · next hplain =>
        refine Regex.Spells.char fun hc => hplain ?_
        simp only [List.mem_cons, List.not_mem_nil, or_false] at hc ⊢
        tauto
  induction text with
  | nil => exact Regex.Spells.nil
  | cons c rest ih =>
      rw [escapeRegex_cons]
      exact (hone c).append ih

namespace Ant.Token

/-- What the expression for a token is made of. -/
def items : Token → List Regex
  | .directories =>
      [.char '/', .star (Regex.altAll [Regex.seqAll [.star (.notChar '/'), .char '/']])]
  | .path =>
      [.opt (Regex.altAll [Regex.seqAll
        [.star (Regex.altAll [Regex.seqAll [.plus (.notChar '/'), .char '/']]),
          .plus (.notChar '/')]])]
  | .segment => [.star (.notChar '/')]
  | .single => [.notChar '/']
  | .literal c => [.char c]

theorem spells_text (token : Token) : Regex.Spells lookup token.text token.items := by
  have hnot : Regex.Spells lookup ['[', '^', '/', ']'] [.notChar '/'] := Regex.Spells.notChar (by decide)
  have hslash : Regex.Spells lookup ['/'] [.char '/'] := Regex.Spells.char (by decide)
  cases token with
  | directories =>
      exact hslash.append ((Regex.Spells.group ((hnot.star rfl).append hslash) .nil).star rfl)
  | path =>
      have hgroup := Regex.Spells.group ((hnot.plus rfl).append hslash) .nil
      exact (Regex.Spells.group ((hgroup.star rfl).append (hnot.plus rfl)) .nil).opt rfl
  | segment => exact hnot.star rfl
  | single => exact hnot
  | literal c => exact spells_escapeRegex [c]

end Ant.Token

theorem spells_pathPattern (pattern : List Char) (hspace : ∀ c ∈ pattern, ¬ Text.isspaceChar c) :
    Regex.Spells lookup (IgnoreConfig.pathPattern pattern)
      ((Ant.tokens pattern).flatMap Ant.Token.items) := by
  rw [pathPattern_eq pattern hspace]
  induction Ant.tokens pattern with
  | nil => exact Regex.Spells.nil
  | cons token rest ih => exact token.spells_text.append ih

namespace Ant

def slashFree : Language Char := fun text => '/' ∉ text

def nonemptySlashFree : Language Char := fun text => text ≠ [] ∧ '/' ∉ text

theorem denotes_char (c : Char) :
    Regex.Denotes false (.char c) ({[c]} : Language Char) := by
  refine (Regex.Denotes.char c).congr fun word => ?_
  constructor
  · rintro ⟨d, hd, rfl⟩
    rw [Regex.same_ofIgnoreCase_false] at hd
    rw [hd]
    rfl
  · rintro rfl
    exact ⟨c, (Regex.same_ofIgnoreCase_false c c).mpr rfl, rfl⟩

theorem denotes_notSlash :
    Regex.Denotes false (.notChar '/') (Regex.singles fun d => d ≠ '/') := by
  refine (Regex.Denotes.notChar '/').congr fun word => ?_
  simp [Regex.mem_singles, eq_comm]

theorem denotes_slashFree : Regex.Denotes false (.star (.notChar '/')) slashFree := by
  refine denotes_notSlash.star.congr fun word => ?_
  rw [Regex.mem_kstar_singles]
  exact ⟨fun h hmem => h '/' hmem rfl, fun h d hd hslash => h (hslash ▸ hd)⟩

theorem denotes_nonemptySlashFree : Regex.Denotes false (.plus (.notChar '/')) nonemptySlashFree := by
  refine denotes_notSlash.plus.congr fun word => ?_
  rw [Regex.mem_mul_kstar_singles]
  exact and_congr_right fun _ =>
    ⟨fun h hmem => h '/' hmem rfl, fun h d hd hslash => h (hslash ▸ hd)⟩

theorem intercalate_concat (segments : List (List Char)) (last : List Char) :
    ['/'].intercalate (segments ++ [last]) = (segments.map (· ++ ['/'])).flatten ++ last := by
  induction segments with
  | nil => simp
  | cons segment rest ih =>
      cases rest with
      | nil => simp [List.intercalate_cons_cons]
      | cons next rest =>
          rw [List.cons_append, List.cons_append, List.intercalate_cons_cons, ← List.cons_append, ih]
          simp

/-- The expression for a token reads the texts that it stands for. -/
theorem Token.denotes_items (token : Token) :
    Regex.Denotes false (Regex.seqAll token.items) token.Matches := by
  cases token with
  | directories =>
      have hgroup : Regex.Denotes false (Regex.seqAll [.star (.notChar '/'), .char '/'])
          (slashFree * {['/']}) := denotes_slashFree.seq (denotes_char '/').single
      refine ((denotes_char '/').seq hgroup.star.single).congr fun text => ?_
      constructor
      · rintro ⟨_, rfl, _, hgroups, rfl⟩
        obtain ⟨groups, hfree, rfl⟩ := Regex.mem_kstar_ending.mp hgroups
        exact ⟨groups, hfree, rfl⟩
      · rintro ⟨groups, hfree, rfl⟩
        exact ⟨['/'], rfl, _, Regex.mem_kstar_ending.mpr ⟨groups, hfree, rfl⟩, rfl⟩
  | path =>
      have hgroup : Regex.Denotes false (Regex.seqAll [.plus (.notChar '/'), .char '/'])
          (nonemptySlashFree * {['/']}) := denotes_nonemptySlashFree.seq (denotes_char '/').single
      refine (hgroup.star.seq denotes_nonemptySlashFree.single).opt.single.congr fun text => ?_
      constructor
      · rintro (rfl | ⟨_, hgroups, last, hlast, rfl⟩)
        · exact ⟨[], by simp, rfl⟩
        · obtain ⟨segments, hsegments, rfl⟩ := Regex.mem_kstar_ending.mp hgroups
          refine ⟨segments ++ [last], ?_, (intercalate_concat segments last).symm⟩
          intro segment hmem
          obtain hmem | hmem := List.mem_append.mp hmem
          · exact hsegments segment hmem
          · rw [List.mem_singleton.mp hmem]
            exact hlast
      · rintro ⟨segments, hsegments, rfl⟩
        obtain rfl | ⟨init, last, rfl⟩ := List.eq_nil_or_concat segments
        · exact .inl rfl
        · rw [List.concat_eq_append] at hsegments ⊢
          rw [intercalate_concat]
          refine .inr (Language.append_mem_mul (Regex.mem_kstar_ending.mpr ⟨init, ?_, rfl⟩) ?_)
          · exact fun segment hmem => hsegments segment (List.mem_append_left _ hmem)
          · exact hsegments last (by simp)
  | segment => exact denotes_slashFree.single
  | single => exact denotes_notSlash.single
  | literal c => exact (denotes_char c).single

/-- The expression for a pattern reads the texts that it matches. -/
theorem denotes_pattern (pattern : List Char) :
    Regex.Denotes false (Regex.seqAll ((tokens pattern).flatMap Token.items)) (Matches pattern) := by
  unfold Matches
  induction tokens pattern with
  | nil =>
      refine Regex.Denotes.nil.congr fun text => ?_
      constructor
      · rintro rfl
        exact ⟨[], .nil, rfl⟩
      · rintro ⟨pieces, hpieces, rfl⟩
        cases hpieces
        rfl
  | cons token rest ih =>
      refine (token.denotes_items.append ih).congr fun text => ?_
      constructor
      · rintro ⟨piece, hpiece, _, ⟨pieces, hpieces, rfl⟩, rfl⟩
        exact ⟨piece :: pieces, .cons hpiece hpieces, rfl⟩
      · rintro ⟨_, hpieces, rfl⟩
        cases hpieces with
        | @cons _ piece _ pieces hpiece hpieces =>
            exact Language.append_mem_mul hpiece ⟨pieces, hpieces, rfl⟩

end Ant
/-- What is made of a text part by part can be read if its parts can. -/
theorem exists_spells_mapParts {separator replacement : List Char} {f : List Char → List Char}
    {items : List Regex} (hreplacement : Regex.Spells lookup replacement items)
    (hf : ∀ part, ∃ items, Regex.Spells lookup (f part) items) (text : List Char) :
    ∃ items, Regex.Spells lookup (Text.mapParts separator replacement f text) items := by
  unfold Text.mapParts
  induction Text.splitBy separator text with
  | nil => exact ⟨[], Regex.Spells.nil⟩
  | cons part rest ih =>
      obtain ⟨partItems, hpart⟩ := hf part
      cases rest with
      | nil =>
          rw [List.map_singleton, List.intercalate_singleton]
          exact ⟨partItems, hpart⟩
      | cons next rest =>
          obtain ⟨restItems, hrest⟩ := ih
          rw [List.map_cons, List.map_cons, List.intercalate_cons_cons]
          exact ⟨_, (hpart.append hreplacement).append hrest⟩

theorem exists_spells_pathPattern (pattern : List Char) :
    ∃ items, Regex.Spells lookup (IgnoreConfig.pathPattern pattern) items :=
  exists_spells_mapParts Ant.Token.directories.spells_text (fun part =>
    exists_spells_mapParts Ant.Token.path.spells_text (fun part =>
      exists_spells_mapParts Ant.Token.segment.spells_text (fun part =>
        exists_spells_mapParts Ant.Token.single.spells_text
          (fun part => ⟨_, spells_escapeRegex part⟩) part) part) (Text.strip part)) pattern

namespace IgnoreConfig

/-- The expression of the suffix alternative. -/
def suffixRegex (config : IgnoreConfig) : Regex :=
  .seqAll [.bol, .plus .any,
    .altAll ((Text.split ',' config.agentIgnoreSuffix).map fun s =>
      .seqAll ((Text.strip s.toList).map .char)),
    .eol]

/-- The expression of the path alternative. -/
def pathRegex (config : IgnoreConfig) : Regex :=
  .seqAll [.bol,
    .altAll ((Text.split ',' config.agentTraceIgnorePath).map fun p0 =>
      .seqAll ((Ant.tokens p0.toList).flatMap Ant.Token.items)),
    .eol]

theorem spells_suffix (config : IgnoreConfig) :
    ∃ items, Regex.Spells lookup config.suffix items ∧ Regex.seqAll items = config.suffixRegex := by
  have hgroup := @Regex.Spells.choices lookup _ _ (Text.split_ne_nil ',' config.agentIgnoreSuffix) _ _
    fun s _ => spells_escapeRegex (Text.strip s.toList)
  have htext : ∀ bars : List Char, "^.+(?:".toList ++ bars ++ ")$".toList =
      ['^'] ++ (['.'] ++ ['+']) ++ ("(?:".toList ++ bars ++ [')'] ++ ['$']) := by simp
  have hsuffix : config.suffix = _ := htext _
  refine ⟨_, ?_, rfl⟩
  rw [hsuffix]
  exact (Regex.Spells.bol.append (Regex.Spells.any.plus rfl)).append
    (hgroup.append Regex.Spells.eol)

theorem spells_path_of_patterns (config : IgnoreConfig) {items : String → List Regex}
    (hpattern : ∀ p0 ∈ Text.split ',' config.agentTraceIgnorePath,
      Regex.Spells lookup (pathPattern p0.toList) (items p0)) :
    Regex.Spells lookup config.path [.bol,
      .altAll ((Text.split ',' config.agentTraceIgnorePath).map fun p0 => .seqAll (items p0)),
      .eol] := by
  have hgroup := Regex.Spells.choices (Text.split_ne_nil ',' config.agentTraceIgnorePath) hpattern
  have htext : ∀ bars : List Char, "^(?:".toList ++ bars ++ ")$".toList =
      ['^'] ++ ("(?:".toList ++ bars ++ [')'] ++ ['$']) := by simp
  have hpath : config.path = _ := htext _
  rw [hpath]
  exact Regex.Spells.bol.append (hgroup.append Regex.Spells.eol)

theorem exists_spells_path (config : IgnoreConfig) :
    ∃ items, Regex.Spells lookup config.path items := by
  choose items hitems using exists_spells_pathPattern
  exact ⟨_, config.spells_path_of_patterns fun p0 _ => hitems p0.toList⟩

theorem spells_path (config : IgnoreConfig)
    (hspace : ∀ c ∈ config.agentTraceIgnorePath.toList, ¬ Text.isspaceChar c) :
    ∃ items, Regex.Spells lookup config.path items ∧ Regex.seqAll items = config.pathRegex := by
  refine ⟨_, config.spells_path_of_patterns fun p0 hp0 => ?_, rfl⟩
  exact spells_pathPattern _ fun c hc => hspace c (Text.mem_of_mem_split hp0 hc)

/-- Both parts can be read, and `RE_IGNORE_PATH` is put together from them. -/
theorem reIgnorePath_eq (config : IgnoreConfig) {items : List Regex}
    (hpath : Regex.Spells lookup config.path items) :
    Regex.compile lookup config.suffix = some config.suffixRegex ∧
      Regex.compile lookup config.path = some (.seqAll items) ∧
      config.reIgnorePath lookup = some (.alt config.suffixRegex (.seqAll items)) := by
  obtain ⟨items', hsuffix, hitems'⟩ := config.spells_suffix
  rw [← hitems']
  refine ⟨Regex.compile_of_spells hsuffix, Regex.compile_of_spells hpath, ?_⟩
  have halternatives := Regex.compile_alternatives hsuffix (.cons hpath .nil)
  rw [List.intercalate_cons_cons, List.intercalate_singleton, List.append_assoc] at halternatives
  exact halternatives

theorem accepts_pathRegex (config : IgnoreConfig) {name : List Char} (hline : '\n' ∉ name) :
    config.pathRegex.accepts false name ↔
      ∃ pattern ∈ Text.split ',' config.agentTraceIgnorePath, Ant.Matches pattern.toList name := by
  have halternatives := Regex.Denotes.alternatives (Text.split_ne_nil ',' config.agentTraceIgnorePath)
    fun p0 _ => Ant.denotes_pattern p0.toList
  exact Regex.accepts_bol.trans (Regex.accepts_eol halternatives.single hline)

end IgnoreConfig

/-- **Ignored paths.** `RE_IGNORE_PATH` has an alternative for the path patterns, which matches a name
exactly if one of the comma-separated patterns, read token by token, matches all of it. -/
theorem ignored_path_iff (lookup : List Char → Option Char) (config : IgnoreConfig)
    (hspace : ∀ c ∈ config.agentTraceIgnorePath.toList, ¬ Text.isspaceChar c) :
    ∃ suffix path, config.reIgnorePath lookup = some (.alt suffix path) ∧
      Regex.compile lookup config.suffix = some suffix ∧ Regex.compile lookup config.path = some path ∧
      ∀ name : String, '\n' ∉ name.toList →
        (path.accepts false name.toList ↔
          ∃ pattern ∈ Text.split ',' config.agentTraceIgnorePath,
            Ant.Matches pattern.toList name.toList) := by
  obtain ⟨items, hitems, hregex⟩ := config.spells_path hspace
  obtain ⟨hsuffix, hpath, hboth⟩ := config.reIgnorePath_eq hitems
  rw [hregex] at hpath hboth
  exact ⟨_, _, hboth, hsuffix, hpath, fun name hline => config.accepts_pathRegex hline⟩

/-- Two patterns with every kind of token. -/
def IgnoreConfig.eureka : IgnoreConfig :=
  { agentIgnoreSuffix := ".jpg,.svg "
    agentTraceIgnorePath := "/eureka/**/b/**/*.txt,/health?/**"
    pluginHttpIgnoreMethod := ""
    pluginGrpcIgnoredMethods := "" }

theorem ignored_path_eureka :
    ∃ pattern ∈ Text.split ',' IgnoreConfig.eureka.agentTraceIgnorePath,
      Ant.Matches pattern.toList "/eureka/a/aa/b/bb/x.txt".toList := by
  have haccepts : (Regex.compile noNames IgnoreConfig.eureka.path).map
      (Regex.accepts false · "/eureka/a/aa/b/bb/x.txt".toList) = some true := by decide +kernel
  obtain ⟨suffix, path, -, -, hpath, hname⟩ :=
    ignored_path_iff noNames .eureka (List.all_iff_forall_prop.mp (by decide +kernel))
  rw [hpath, Option.map_some, Option.some.injEq] at haccepts
  exact (hname "/eureka/a/aa/b/bb/x.txt" (by decide)).mp haccepts

end SkyWalking
