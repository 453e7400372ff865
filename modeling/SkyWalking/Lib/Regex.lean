import Mathlib.Computability.Language
import Mathlib.Logic.Relation
import SkyWalking.Lib.Text

/-!
# Regular expressions

The expressions of Python's `re`. `ends` lists the places that an expression can get to, in the order in
which they are tried and with what its groups hold there. Letters of either case and the characters of a
word are those of ASCII, and of the code points that fold to it. Expressions without anchors and groups read
the words of a language, and languages compose as in Kleene algebra.
-/

inductive Regex.Category where
  | digit
  | space
  | word
  deriving DecidableEq, Repr

/-- What a set is made of: ranges of code points, and classes or their complements. -/
inductive Regex.SetItem where
  | range (first last : Nat)
  | category (category : Regex.Category) (negated : Bool)
  deriving DecidableEq, Repr

inductive Regex.Quantifier where
  | greedy
  | lazy
  | possessive
  deriving DecidableEq, Repr

inductive Regex.Flag where
  | ignoreCase
  | multiline
  | dotAll
  | verbose
  | ascii
  | unicode
  deriving DecidableEq, Repr

inductive Regex where
  | empty
  | char (c : Char)
  | any
  | oneOf (negated : Bool) (items : List Regex.SetItem)
  | bol
  | eol
  | textStart
  | textEnd
  | boundary (negated : Bool)
  | seq (first second : Regex)
  | alt (left right : Regex)
  | repeated (quantifier : Regex.Quantifier) (least : Nat) (most : Option Nat) (body : Regex)
  | capture (group : Nat) (body : Regex)
  | reference (group : Nat)
  | conditional (group : Nat) (yes no : Regex)
  | atomic (body : Regex)
  | ahead (negated : Bool) (body : Regex)
  | behind (negated : Bool) (width : Nat) (body : Regex)
  | scoped (on off : List Regex.Flag) (body : Regex)
  deriving DecidableEq, Repr

namespace Regex

open Computability

def notChar (c : Char) : Regex := .oneOf true [.range c.toNat c.toNat]

def star (body : Regex) : Regex := .repeated .greedy 0 none body

def plus (body : Regex) : Regex := .repeated .greedy 1 none body

def opt (body : Regex) : Regex := .repeated .greedy 0 (some 1) body

/-- A place in a text: what is before it, backwards, what is left to read, and what the groups hold. -/
structure Cursor where
  before : List Char
  rest : List Char
  groups : List (Nat × List Char)
  deriving DecidableEq, Repr

abbrev Flags := List Flag

def Flags.ofIgnoreCase (ignoreCase : Bool) : Flags := if ignoreCase then [.ignoreCase] else []

/-- Of `ascii` and `unicode`, a new one replaces the old one. -/
def Flags.change (flags : Flags) (on off : List Flag) : Flags :=
  let kept := flags.filter fun flag =>
    ¬ ((flag = .ascii ∨ flag = .unicode) ∧ (.ascii ∈ on ∨ .unicode ∈ on))
  (kept ++ on).filter (· ∉ off)

/-- The lower case of a character. Four code points beyond ASCII belong to ASCII letters. -/
def fold (flags : Flags) (c : Char) : Char :=
  if .ascii ∈ flags then c.toLower
  else if c = '\u0130' ∨ c = '\u0131' then 'i'
  else if c = '\u017f' then 's'
  else if c = '\u212a' then 'k'
  else c.toLower

/-- Whether two characters count as the same. -/
def same (flags : Flags) (c d : Char) : Bool :=
  c = d || .ignoreCase ∈ flags && fold flags c = fold flags d

def variants (flags : Flags) (d : Char) : List Char :=
  [d, d.toLower, d.toUpper, '\u0130', '\u0131', '\u017f', '\u212a'].filter (same flags · d)

def Category.test (flags : Flags) (d : Char) : Category → Bool
  | .digit => if .ascii ∈ flags then d.isDigit else (Text.decimal? d).isSome
  | .space =>
      if .ascii ∈ flags then d ∈ [' ', '\t', '\n', '\r', '\x0b', '\x0c'] else Text.isspaceChar d
  | .word => d.isAlphanum || d = '_'

def SetItem.covers (flags : Flags) (d : Char) : SetItem → Bool
  | .range first last => (variants flags d).any fun c => first ≤ c.toNat && c.toNat ≤ last
  | .category kind negated => kind.test flags d != negated

namespace Cursor

def take (test : Char → Bool) (cursor : Cursor) : List Cursor :=
  match cursor.rest with
  | [] => []
  | d :: rest => if test d then [⟨d :: cursor.before, rest, cursor.groups⟩] else []

def takeText (flags : Flags) : List Char → Cursor → List Cursor
  | [], cursor => [cursor]
  | c :: text, cursor => (cursor.take (same flags c)).flatMap (takeText flags text)

def back (width : Nat) (cursor : Cursor) : Cursor :=
  { cursor with
    before := cursor.before.drop width
    rest := (cursor.before.take width).reverse ++ cursor.rest }

def group? (cursor : Cursor) (group : Nat) : Option (List Char) := cursor.groups.lookup group

/-- A group holds what was read since `cursor`. -/
def hold (group : Nat) (cursor next : Cursor) : Cursor :=
  let text := cursor.rest.take (cursor.rest.length - next.rest.length)
  { next with groups := (group, text) :: next.groups }

/-- Exactly one side of the place is part of a word. -/
def atBoundary (flags : Flags) (cursor : Cursor) : Bool :=
  cursor.before.head?.any (Category.word.test flags) != cursor.rest.head?.any (Category.word.test flags)

/-- An assertion moves nothing, but if it has to hold its groups stay. -/
def assert (negated : Bool) (cursor : Cursor) : List Cursor → List Cursor
  | [] => if negated then [cursor] else []
  | found :: _ => if negated then [] else [{ cursor with groups := found.groups }]

end Cursor

/-- The ends of `count` and more repetitions, in the order of the quantifier. `last` is what was left to read
before the last optional repetition; one that read nothing is the last one. -/
def repeatEnds (lazy : Bool) (least : Nat) (most : Option Nat) (step : Cursor → List Cursor) :
    Nat → Nat → Option Nat → Cursor → List Cursor
  | 0, _, _, _ => []
  | fuel + 1, count, last, cursor =>
      if count < least then
        (step cursor).flatMap (repeatEnds lazy least most step fuel (count + 1) last)
      else
        let more :=
          if most.all (count < ·) ∧ last ≠ some cursor.rest.length then
            (step cursor).flatMap
              (repeatEnds lazy least most step fuel (count + 1) (some cursor.rest.length))
          else []
        if lazy then cursor :: more else more ++ [cursor]

def ends : Regex → Flags → Cursor → List Cursor
  | .empty, _, cursor => [cursor]
  | .char c, flags, cursor => cursor.take (same flags c)
  | .any, flags, cursor => cursor.take fun d => .dotAll ∈ flags || d ≠ '\n'
  | .oneOf negated items, flags, cursor => cursor.take fun d => items.any (·.covers flags d) != negated
  | .bol, flags, cursor =>
      if cursor.before = [] ∨ .multiline ∈ flags ∧ cursor.before.head? = some '\n' then [cursor] else []
  | .eol, flags, cursor =>
      if cursor.rest = [] ∨ cursor.rest = ['\n'] ∨
          .multiline ∈ flags ∧ cursor.rest.head? = some '\n' then [cursor] else []
  | .textStart, _, cursor => if cursor.before = [] then [cursor] else []
  | .textEnd, _, cursor => if cursor.rest = [] then [cursor] else []
  | .boundary negated, flags, cursor =>
      -- in an empty text neither `\b` nor `\B` holds
      if (cursor.before ≠ [] ∨ cursor.rest ≠ []) ∧ cursor.atBoundary flags ≠ negated then [cursor] else []
  | .seq first second, flags, cursor => (ends first flags cursor).flatMap (ends second flags)
  | .alt left right, flags, cursor => ends left flags cursor ++ ends right flags cursor
  | .repeated quantifier least most body, flags, cursor =>
      let fuel := least + cursor.rest.length + 2
      match quantifier with
      | .greedy => repeatEnds false least most (ends body flags) fuel 0 none cursor
      | .lazy => repeatEnds true least most (ends body flags) fuel 0 none cursor
      | .possessive =>
          -- every repetition stands once it is found
          (repeatEnds false least most (fun place => (ends body flags place).take 1) fuel 0 none
            cursor).take 1
  | .capture group body, flags, cursor => (ends body flags cursor).map (Cursor.hold group cursor)
  | .reference group, flags, cursor =>
      match cursor.group? group with
      | none => []
      | some text => cursor.takeText flags text
  | .conditional group yes no, flags, cursor =>
      if (cursor.group? group).isSome then ends yes flags cursor else ends no flags cursor
  | .atomic body, flags, cursor => (ends body flags cursor).take 1
  | .ahead negated body, flags, cursor => cursor.assert negated (ends body flags cursor)
  | .behind negated width body, flags, cursor =>
      cursor.assert negated
        (if cursor.before.length < width then [] else ends body flags (cursor.back width))
  | .scoped on off body, flags, cursor => ends body (flags.change on off) cursor

section Ends

variable (flags : Flags) (cursor : Cursor)

@[simp]
theorem ends_empty : ends .empty flags cursor = [cursor] := rfl

@[simp]
theorem ends_bol : ends .bol flags cursor =
    if cursor.before = [] ∨ .multiline ∈ flags ∧ cursor.before.head? = some '\n' then [cursor] else [] :=
  rfl

@[simp]
theorem ends_eol : ends .eol flags cursor =
    if cursor.rest = [] ∨ cursor.rest = ['\n'] ∨
      .multiline ∈ flags ∧ cursor.rest.head? = some '\n' then [cursor] else [] := rfl

@[simp]
theorem ends_seq (first second : Regex) : ends (.seq first second) flags cursor =
    (ends first flags cursor).flatMap (ends second flags) := rfl

@[simp]
theorem ends_alt (left right : Regex) : ends (.alt left right) flags cursor =
    ends left flags cursor ++ ends right flags cursor := rfl

theorem ends_greedy (least : Nat) (most : Option Nat) (body : Regex) :
    ends (.repeated .greedy least most body) flags cursor =
      repeatEnds false least most (ends body flags) (least + cursor.rest.length + 2) 0 none cursor := rfl

end Ends

/-- The expression matches at the beginning of a text. -/
def accepts (ignoreCase : Bool) (regex : Regex) (text : List Char) : Bool :=
  !(ends regex (.ofIgnoreCase ignoreCase) ⟨[], text, []⟩).isEmpty

variable {ignoreCase : Bool}

theorem same_ofIgnoreCase_false (c d : Char) : same (.ofIgnoreCase false) c d ↔ c = d := by
  simp [same, Flags.ofIgnoreCase]

theorem accepts_iff {regex : Regex} {text : List Char} :
    accepts ignoreCase regex text ↔
      ∃ cursor, cursor ∈ ends regex (.ofIgnoreCase ignoreCase) ⟨[], text, []⟩ := by
  rw [accepts, Bool.not_eq_true', ← Bool.not_eq_true, List.isEmpty_iff]
  constructor
  · exact List.exists_mem_of_ne_nil _
  · rintro ⟨cursor, hmem⟩ hnil
    rw [hnil] at hmem
    cases hmem

/-- The word lies between two places. -/
structure Cursor.Skips (word : List Char) (cursor cursor' : Cursor) : Prop where
  before : cursor'.before = word.reverse ++ cursor.before
  rest : cursor.rest = word ++ cursor'.rest
  groups : cursor'.groups = cursor.groups

namespace Cursor

variable {cursor cursor' : Cursor} {word word' : List Char}

theorem skips_nil : Skips [] cursor cursor' ↔ cursor' = cursor := by
  obtain ⟨before, rest, groups⟩ := cursor
  obtain ⟨before', rest', groups'⟩ := cursor'
  constructor
  · rintro ⟨hbefore, hrest, hgroups⟩
    rw [Cursor.mk.injEq]
    exact ⟨hbefore, hrest.symm, hgroups⟩
  · rintro ⟨rfl, rfl, rfl⟩
    exact ⟨rfl, rfl, rfl⟩

theorem skips_append :
    Skips (word ++ word') cursor cursor' ↔ Relation.Comp (Skips word) (Skips word') cursor cursor' := by
  constructor
  · rintro ⟨hbefore, hrest, hgroups⟩
    refine ⟨⟨word.reverse ++ cursor.before, word' ++ cursor'.rest, cursor.groups⟩, ⟨rfl, ?_, rfl⟩,
      ⟨?_, rfl, hgroups⟩⟩
    · rw [hrest, List.append_assoc]
    · rw [hbefore, List.reverse_append, List.append_assoc]
  · rintro ⟨middle, ⟨hbefore, hrest, hgroups⟩, hbefore', hrest', hgroups'⟩
    refine ⟨?_, ?_, hgroups'.trans hgroups⟩
    · rw [hbefore', hbefore, List.reverse_append, List.append_assoc]
    · rw [hrest, hrest', List.append_assoc]

theorem mem_take {test : Char → Bool} :
    cursor' ∈ cursor.take test ↔ ∃ d, test d ∧ Skips [d] cursor cursor' := by
  obtain ⟨before, rest, groups⟩ := cursor
  obtain ⟨before', rest', groups'⟩ := cursor'
  cases rest with
  | nil =>
      simp only [take, List.not_mem_nil, false_iff]
      rintro ⟨d, -, -, hrest, -⟩
      cases hrest
  | cons d rest =>
      by_cases hd : test d
      · simp only [take, if_pos hd, List.mem_singleton, Cursor.mk.injEq]
        constructor
        · rintro ⟨rfl, rfl, rfl⟩
          exact ⟨d, hd, rfl, rfl, rfl⟩
        · rintro ⟨e, -, hbefore, hrest, hgroups⟩
          obtain ⟨rfl, rfl⟩ := List.cons.inj hrest
          exact ⟨hbefore, rfl, hgroups⟩
      · simp only [take, if_neg hd, List.not_mem_nil, false_iff]
        rintro ⟨e, he, -, hrest, -⟩
        obtain ⟨rfl, -⟩ := List.cons.inj hrest
        exact hd he

/-- Whatever is read, the place is the same or further on. -/
theorem Skips.advances (h : Skips word cursor cursor') :
    cursor' = cursor ∨ cursor'.rest.length < cursor.rest.length := by
  cases word with
  | nil => exact .inl (skips_nil.mp h)
  | cons d word =>
      right
      rw [h.rest, List.length_append]
      simp

end Cursor

section Repetition

variable {step : Cursor → List Cursor}
  (hadvances : ∀ cursor, ∀ next ∈ step cursor,
    next = cursor ∨ next.rest.length < cursor.rest.length)

include hadvances

theorem mem_repeatEnds {least : Nat} (fuel : Nat) :
    ∀ {count : Nat} {last : Option Nat} {cursor cursor' : Cursor}, least ≤ count →
      last ≠ some cursor.rest.length → cursor.rest.length + 2 ≤ fuel →
      (cursor' ∈ repeatEnds false least none step fuel count last cursor ↔
        Relation.ReflTransGen (fun place next => next ∈ step place) cursor cursor') := by
  induction fuel with
  | zero =>
      intro count last cursor cursor' _ _ hfuel
      omega
  | succ fuel ih =>
      intro count last cursor cursor' hcount hlast hfuel
      have hends : repeatEnds false least none step (fuel + 1) count last cursor =
          (step cursor).flatMap
            (repeatEnds false least none step fuel (count + 1) (some cursor.rest.length)) ++
              [cursor] := by
        simp [repeatEnds, Nat.not_lt.mpr hcount, hlast]
      rw [hends, List.mem_append, List.mem_flatMap, List.mem_singleton]
      constructor
      · rintro (⟨next, hnext, h⟩ | rfl)
        · obtain rfl | hlt := hadvances cursor next hnext
          · -- a repetition that read nothing is the last one
            obtain ⟨fuel, rfl⟩ : ∃ n, fuel = n + 1 := ⟨fuel - 1, by omega⟩
            have hstop : ¬ count + 1 < least := by omega
            simp only [repeatEnds, hstop, if_false, ne_eq, not_true_eq_false, and_false,
              Bool.false_eq_true, List.nil_append, List.mem_singleton] at h
            rw [h]
          · have hne : some cursor.rest.length ≠ some next.rest.length := by
              rw [ne_eq, Option.some.injEq]
              omega
            exact .head hnext ((ih (by omega) hne (by omega)).mp h)
        · exact .refl
      · intro h
        induction h using Relation.ReflTransGen.head_induction_on with
        | refl => exact .inr rfl
        | @head place next hfirst hrest ihRest =>
            obtain rfl | hlt := hadvances place next hfirst
            · exact ihRest hlast hfuel hends
            · have hne : some place.rest.length ≠ some next.rest.length := by
                rw [ne_eq, Option.some.injEq]
                omega
              exact .inl ⟨next, hfirst, (ih (by omega) hne (by omega)).mpr hrest⟩

end Repetition

/-- The expression reads the words of a language, wherever it starts. -/
def Denotes (ignoreCase : Bool) (regex : Regex) (language : Language Char) : Prop :=
  ∀ cursor cursor' : Cursor, cursor' ∈ ends regex (.ofIgnoreCase ignoreCase) cursor ↔
    ∃ word ∈ language, cursor.Skips word cursor'

/-- The words of one character that passes a test. -/
def singles (test : Char → Prop) : Language Char := fun word => ∃ d, test d ∧ word = [d]

theorem mem_singles {test : Char → Prop} {word : List Char} :
    word ∈ singles test ↔ ∃ d, test d ∧ word = [d] := Iff.rfl

theorem mem_kstar_singles {test : Char → Prop} {word : List Char} :
    word ∈ (singles test)∗ ↔ ∀ d ∈ word, test d := by
  constructor
  · rintro ⟨words, rfl, hwords⟩ d hd
    obtain ⟨part, hpart, hd⟩ := List.mem_flatten.mp hd
    obtain ⟨e, he, rfl⟩ := hwords part hpart
    obtain rfl := List.mem_singleton.mp hd
    exact he
  · intro hword
    refine ⟨word.map fun d => [d], ?_, ?_⟩
    · rw [← List.flatMap_def, List.flatMap_singleton']
    · intro part hpart
      obtain ⟨d, hd, rfl⟩ := List.mem_map.mp hpart
      exact ⟨d, hword d hd, rfl⟩

theorem mem_mul_kstar_singles {test : Char → Prop} {word : List Char} :
    word ∈ singles test * (singles test)∗ ↔ word ≠ [] ∧ ∀ d ∈ word, test d := by
  constructor
  · rintro ⟨_, ⟨d, hd, rfl⟩, rest, hrest, rfl⟩
    exact ⟨List.cons_ne_nil _ _, List.forall_mem_cons.mpr ⟨hd, mem_kstar_singles.mp hrest⟩⟩
  · rintro ⟨hne, hword⟩
    obtain ⟨d, rest, rfl⟩ := List.exists_cons_of_ne_nil hne
    obtain ⟨hd, hrest⟩ := List.forall_mem_cons.mp hword
    exact ⟨[d], ⟨d, hd, rfl⟩, rest, mem_kstar_singles.mpr hrest, rfl⟩

/-- Repetitions of words with the same ending. -/
theorem mem_kstar_ending {language : Language Char} {ending word : List Char} :
    word ∈ (language * ({ending} : Language Char))∗ ↔
      ∃ groups : List (List Char), (∀ group ∈ groups, group ∈ language) ∧
        word = (groups.map (· ++ ending)).flatten := by
  constructor
  · rintro ⟨words, rfl, hwords⟩
    induction words with
    | nil => exact ⟨[], by simp, rfl⟩
    | cons first words ih =>
        obtain ⟨hfirst, hrest⟩ := List.forall_mem_cons.mp hwords
        obtain ⟨group, hgroup, tail, htail, hgroupTail⟩ := Language.mem_mul.mp hfirst
        obtain ⟨groups, hgroups, hflatten⟩ := ih hrest
        have htail' : tail = ending := htail
        refine ⟨group :: groups, List.forall_mem_cons.mpr ⟨hgroup, hgroups⟩, ?_⟩
        rw [List.flatten_cons, hflatten, ← hgroupTail, htail']
        rfl
  · rintro ⟨groups, hgroups, rfl⟩
    refine ⟨_, rfl, fun word hword => ?_⟩
    obtain ⟨group, hgroup, rfl⟩ := List.mem_map.mp hword
    exact Language.append_mem_mul (hgroups group hgroup) rfl

namespace Denotes

variable {first second body : Regex} {language language' : Language Char}

theorem congr {regex : Regex} (h : Denotes ignoreCase regex language)
    (hsame : ∀ word, word ∈ language ↔ word ∈ language') : Denotes ignoreCase regex language' :=
  Language.ext hsame ▸ h

theorem empty : Denotes ignoreCase .empty 1 := by
  intro cursor cursor'
  simp only [ends_empty, List.mem_singleton, Language.mem_one, exists_eq_left, Cursor.skips_nil]

theorem of_take {regex : Regex} {test : Char → Bool} {passes : Char → Prop}
    (h : ∀ cursor, ends regex (.ofIgnoreCase ignoreCase) cursor = cursor.take test)
    (htest : ∀ d, test d = true ↔ passes d) : Denotes ignoreCase regex (singles passes) := by
  intro cursor cursor'
  rw [h, Cursor.mem_take]
  constructor
  · rintro ⟨d, hd, hskips⟩
    exact ⟨[d], ⟨d, (htest d).mp hd, rfl⟩, hskips⟩
  · rintro ⟨_, ⟨d, hd, rfl⟩, hskips⟩
    exact ⟨d, (htest d).mpr hd, hskips⟩

theorem char (c : Char) :
    Denotes ignoreCase (.char c) (singles fun d => same (.ofIgnoreCase ignoreCase) c d) :=
  of_take (fun _ => rfl) fun _ => Iff.rfl

theorem any : Denotes ignoreCase .any (singles fun d => d ≠ '\n') := by
  refine of_take (fun _ => rfl) fun d => ?_
  cases ignoreCase with
  | false => simp [Flags.ofIgnoreCase]
  | true => simp [Flags.ofIgnoreCase]

theorem covers_range (c d : Char) : (SetItem.range c.toNat c.toNat).covers [] d ↔ c = d := by
  have hvariants : variants [] d = [d, d.toLower, d.toUpper, '\u0130', '\u0131', '\u017f',
      '\u212a'].filter (· = d) := by
    simp [variants, same]
  rw [SetItem.covers, hvariants, List.any_filter, List.any_eq_true]
  simp only [Bool.and_eq_true, decide_eq_true_eq]
  constructor
  · rintro ⟨e, -, rfl, hle, hge⟩
    exact Char.toNat_inj.mp (Nat.le_antisymm hle hge)
  · rintro rfl
    exact ⟨c, List.mem_cons_self, rfl, Nat.le_refl _, Nat.le_refl _⟩

theorem notChar (c : Char) : Denotes false (.notChar c) (singles fun d => c ≠ d) := by
  refine of_take (fun _ => rfl) fun d => ?_
  simp only [Flags.ofIgnoreCase, List.any_cons, List.any_nil, Bool.or_false, bne_iff_ne,
    ne_eq, Bool.not_eq_true, Bool.false_eq_true, if_false, ← covers_range c d]

theorem seq (hfirst : Denotes ignoreCase first language) (hsecond : Denotes ignoreCase second language') :
    Denotes ignoreCase (.seq first second) (language * language') := by
  intro cursor cursor'
  rw [ends_seq, List.mem_flatMap]
  constructor
  · rintro ⟨middle, h, h'⟩
    obtain ⟨word, hword, hskips⟩ := (hfirst _ _).mp h
    obtain ⟨word', hword', hskips'⟩ := (hsecond _ _).mp h'
    exact ⟨word ++ word', Language.append_mem_mul hword hword',
      Cursor.skips_append.mpr ⟨middle, hskips, hskips'⟩⟩
  · rintro ⟨_, hmem, hskips⟩
    obtain ⟨word, hword, word', hword', rfl⟩ := Language.mem_mul.mp hmem
    obtain ⟨middle, hskips, hskips'⟩ := Cursor.skips_append.mp hskips
    exact ⟨middle, (hfirst _ _).mpr ⟨word, hword, hskips⟩,
      (hsecond _ _).mpr ⟨word', hword', hskips'⟩⟩

theorem advances (hbody : Denotes ignoreCase body language) (cursor : Cursor) :
    ∀ next ∈ ends body (.ofIgnoreCase ignoreCase) cursor,
      next = cursor ∨ next.rest.length < cursor.rest.length := by
  intro next hnext
  obtain ⟨word, -, hskips⟩ := (hbody _ _).mp hnext
  exact hskips.advances

/-- Repetitions lead from one place to another exactly if words of the language lie between them. -/
theorem reflTransGen_iff (hbody : Denotes ignoreCase body language) (cursor cursor' : Cursor) :
    Relation.ReflTransGen (fun place next => next ∈ ends body (.ofIgnoreCase ignoreCase) place) cursor
      cursor' ↔ ∃ word ∈ language∗, cursor.Skips word cursor' := by
  constructor
  · intro h
    induction h using Relation.ReflTransGen.head_induction_on with
    | refl => exact ⟨[], Language.nil_mem_kstar language, Cursor.skips_nil.mpr rfl⟩
    | head hfirst _ ih =>
        obtain ⟨word, hword, hskips⟩ := (hbody _ _).mp hfirst
        obtain ⟨word', ⟨words, rfl, hwords⟩, hskips'⟩ := ih
        refine ⟨(word :: words).flatten, ⟨word :: words, rfl, ?_⟩,
          Cursor.skips_append.mpr ⟨_, hskips, hskips'⟩⟩
        exact List.forall_mem_cons.mpr ⟨hword, hwords⟩
  · rintro ⟨_, ⟨words, rfl, hwords⟩, hskips⟩
    induction words generalizing cursor with
    | nil =>
        obtain rfl := Cursor.skips_nil.mp hskips
        exact .refl
    | cons word words ih =>
        obtain ⟨hword, hwords⟩ := List.forall_mem_cons.mp hwords
        obtain ⟨middle, hskips, hskips'⟩ := Cursor.skips_append.mp hskips
        exact .head ((hbody _ _).mpr ⟨word, hword, hskips⟩) (ih middle hwords hskips')

theorem star (hbody : Denotes ignoreCase body language) :
    Denotes ignoreCase (.star body) language∗ := by
  intro cursor cursor'
  rw [← hbody.reflTransGen_iff]
  exact mem_repeatEnds hbody.advances _ (Nat.le_refl 0) (by simp) (by omega)

theorem plus (hbody : Denotes ignoreCase body language) :
    Denotes ignoreCase (.plus body) (language * language∗) := by
  intro cursor cursor'
  have hends : ends (.plus body) (.ofIgnoreCase ignoreCase) cursor =
      (ends body (.ofIgnoreCase ignoreCase) cursor).flatMap
        (repeatEnds false 1 none (ends body (.ofIgnoreCase ignoreCase)) (cursor.rest.length + 2) 1
          none) := by
    simp only [Regex.plus, ends_greedy, Nat.add_comm 1, repeatEnds]
    rfl
  have hrest : ∀ middle ∈ ends body (.ofIgnoreCase ignoreCase) cursor,
      (cursor' ∈ repeatEnds false 1 none (ends body (.ofIgnoreCase ignoreCase))
        (cursor.rest.length + 2) 1 none middle ↔ ∃ word ∈ language∗, middle.Skips word cursor') := by
    intro middle hmiddle
    rw [← hbody.reflTransGen_iff]
    refine mem_repeatEnds hbody.advances _ (Nat.le_refl 1) (by simp) ?_
    obtain rfl | hlt := hbody.advances cursor middle hmiddle
    · exact Nat.le_refl _
    · omega
  rw [hends, List.mem_flatMap]
  constructor
  · rintro ⟨middle, hmiddle, h⟩
    obtain ⟨word, hword, hskips⟩ := (hbody _ _).mp hmiddle
    obtain ⟨word', hword', hskips'⟩ := (hrest middle hmiddle).mp h
    exact ⟨word ++ word', Language.append_mem_mul hword hword',
      Cursor.skips_append.mpr ⟨middle, hskips, hskips'⟩⟩
  · rintro ⟨_, hmem, hskips⟩
    obtain ⟨word, hword, word', hword', rfl⟩ := Language.mem_mul.mp hmem
    obtain ⟨middle, hskips, hskips'⟩ := Cursor.skips_append.mp hskips
    have hmiddle := (hbody _ _).mpr ⟨word, hword, hskips⟩
    exact ⟨middle, hmiddle, (hrest middle hmiddle).mpr ⟨word', hword', hskips'⟩⟩

theorem opt (hbody : Denotes ignoreCase body language) :
    Denotes ignoreCase (.opt body) (1 + language) := by
  intro cursor cursor'
  have hends : ends (.opt body) (.ofIgnoreCase ignoreCase) cursor =
      ends body (.ofIgnoreCase ignoreCase) cursor ++ [cursor] := by
    simp [Regex.opt, ends_greedy, repeatEnds]
  rw [hends, List.mem_append, List.mem_singleton, hbody, or_comm]
  simp only [Language.mem_add, Language.mem_one, or_and_right, exists_or, exists_eq_left,
    Cursor.skips_nil]

end Denotes

def seqAll (items : List Regex) : Regex := items.foldr .seq .empty

def altAll : List Regex → Regex
  | [] => .empty
  | [branch] => branch
  | branch :: next :: rest => .alt branch (altAll (next :: rest))

theorem mem_ends_seqAll_append (items items' : List Regex) (flags : Flags) (cursor cursor' : Cursor) :
    cursor' ∈ ends (seqAll (items ++ items')) flags cursor ↔
      ∃ middle ∈ ends (seqAll items) flags cursor, cursor' ∈ ends (seqAll items') flags middle := by
  induction items generalizing cursor with
  | nil => simp [seqAll]
  | cons item items ih =>
      have hcons : ∀ rest : List Regex, ends (seqAll (item :: rest)) flags cursor =
          (ends item flags cursor).flatMap (ends (seqAll rest) flags) := fun _ => rfl
      rw [List.cons_append, hcons, hcons, List.mem_flatMap]
      constructor
      · rintro ⟨middle, h, h'⟩
        obtain ⟨next, hnext, hrest⟩ := (ih middle).mp h'
        exact ⟨next, List.mem_flatMap.mpr ⟨middle, h, hnext⟩, hrest⟩
      · rintro ⟨next, hnext, hrest⟩
        obtain ⟨middle, h, h'⟩ := List.mem_flatMap.mp hnext
        exact ⟨middle, h, (ih middle).mpr ⟨next, h', hrest⟩⟩

theorem mem_ends_altAll {branches : List Regex} (hne : branches ≠ []) (flags : Flags)
    (cursor cursor' : Cursor) :
    cursor' ∈ ends (altAll branches) flags cursor ↔
      ∃ branch ∈ branches, cursor' ∈ ends branch flags cursor := by
  induction branches using altAll.induct with
  | case1 => exact absurd rfl hne
  | case2 branch => simp [altAll]
  | case3 branch next rest ih => simp [altAll, ih (List.cons_ne_nil _ _)]

section Items

variable {items items' : List Regex} {language language' : Language Char}

theorem Denotes.nil : Denotes ignoreCase (seqAll []) 1 := .empty

theorem Denotes.single {item : Regex} (h : Denotes ignoreCase item language) :
    Denotes ignoreCase (seqAll [item]) language :=
  (h.seq .empty).congr fun word => by rw [mul_one]

theorem Denotes.append (h : Denotes ignoreCase (seqAll items) language)
    (h' : Denotes ignoreCase (seqAll items') language') :
    Denotes ignoreCase (seqAll (items ++ items')) (language * language') := by
  intro cursor cursor'
  rw [mem_ends_seqAll_append, ← h.seq h' cursor cursor', ends_seq, List.mem_flatMap]

/-- One of several alternatives. -/
theorem Denotes.alternatives {α : Type} {choices : List α} (hne : choices ≠ []) {branch : α → Regex}
    {languages : α → Language Char}
    (h : ∀ choice ∈ choices, Denotes ignoreCase (branch choice) (languages choice)) :
    Denotes ignoreCase (altAll (choices.map branch)) fun word =>
      ∃ choice ∈ choices, word ∈ languages choice := by
  intro cursor cursor'
  rw [mem_ends_altAll (by simpa using hne)]
  constructor
  · rintro ⟨_, hmem, hends⟩
    obtain ⟨choice, hchoice, rfl⟩ := List.mem_map.mp hmem
    obtain ⟨word, hword, hskips⟩ := (h choice hchoice _ _).mp hends
    exact ⟨word, ⟨choice, hchoice, hword⟩, hskips⟩
  · rintro ⟨word, ⟨choice, hchoice, hword⟩, hskips⟩
    exact ⟨branch choice, List.mem_map_of_mem hchoice,
      (h choice hchoice _ _).mpr ⟨word, hword, hskips⟩⟩

end Items

section Accepts

variable {regex : Regex} {items : List Regex} {language : Language Char} {text : List Char}

theorem accepts_of_denotes (h : Denotes ignoreCase regex language) :
    accepts ignoreCase regex text ↔ ∃ word ∈ language, word <+: text := by
  rw [accepts_iff]
  constructor
  · rintro ⟨cursor, hends⟩
    obtain ⟨word, hword, hskips⟩ := (h _ _).mp hends
    exact ⟨word, hword, cursor.rest, hskips.rest.symm⟩
  · rintro ⟨word, hword, rest, hrest⟩
    exact ⟨⟨word.reverse ++ [], rest, []⟩, (h _ _).mpr ⟨word, hword, rfl, hrest.symm, rfl⟩⟩

/-- The alternatives of an expression that is not inside a group. -/
def alternatives : Regex → List Regex
  | .alt left right => alternatives left ++ alternatives right
  | regex => [regex]

theorem accepts_alt (left right : Regex) :
    accepts ignoreCase (.alt left right) text ↔
      accepts ignoreCase left text ∨ accepts ignoreCase right text := by
  simp only [accepts_iff, ends_alt, List.mem_append, exists_or]

theorem accepts_iff_alternatives (regex : Regex) :
    accepts ignoreCase regex text ↔
      ∃ alternative ∈ regex.alternatives, accepts ignoreCase alternative text := by
  induction regex with
  | alt left right ihLeft ihRight =>
      simp only [accepts_alt, alternatives, List.mem_append, or_and_right, exists_or, ihLeft, ihRight]
  | _ => simp [alternatives]

theorem accepts_altAll {branches : List Regex} (hne : branches ≠ []) :
    accepts ignoreCase (altAll branches) text ↔
      ∃ branch ∈ branches, accepts ignoreCase branch text := by
  simp only [accepts_iff, mem_ends_altAll hne]
  constructor
  · rintro ⟨cursor, branch, hbranch, hends⟩
    exact ⟨branch, hbranch, cursor, hends⟩
  · rintro ⟨branch, hbranch, cursor, hends⟩
    exact ⟨cursor, branch, hbranch, hends⟩

/-- Matching starts at the beginning anyway. -/
theorem accepts_bol : accepts ignoreCase (.seq .bol regex) text ↔ accepts ignoreCase regex text := by
  simp [accepts_iff]

/-- In a text of one line, `$` holds at the end only. -/
theorem accepts_eol (h : Denotes ignoreCase (seqAll items) language) (hline : '\n' ∉ text) :
    accepts ignoreCase (seqAll (items ++ [.eol])) text ↔ text ∈ language := by
  rw [accepts_iff]
  simp only [mem_ends_seqAll_append]
  constructor
  · rintro ⟨cursor, middle, hitems, heol⟩
    obtain ⟨word, hword, hskips⟩ := (h _ _).mp hitems
    have hrest : text = word ++ middle.rest := hskips.rest
    have hend : middle.rest = [] := by
      cases hmiddle : middle.rest with
      | nil => rfl
      | cons c rest =>
          have hne : c ≠ '\n' := by
            rintro rfl
            exact hline (by rw [hrest, hmiddle]; simp)
          simp [seqAll, hmiddle, hne] at heol
    rw [hend, List.append_nil] at hrest
    rw [hrest]
    exact hword
  · intro hword
    refine ⟨⟨text.reverse ++ [], [], []⟩, ⟨text.reverse ++ [], [], []⟩, ?_, ?_⟩
    · exact (h _ _).mpr ⟨text, hword, rfl, (List.append_nil _).symm, rfl⟩
    · simp [seqAll]

end Accepts

/-- The same expression with higher numbers for its groups. -/
def shift (offset : Nat) : Regex → Regex
  | .seq first second => .seq (shift offset first) (shift offset second)
  | .alt left right => .alt (shift offset left) (shift offset right)
  | .repeated quantifier least most body => .repeated quantifier least most (shift offset body)
  | .capture group body => .capture (group + offset) (shift offset body)
  | .reference group => .reference (group + offset)
  | .conditional group yes no => .conditional (group + offset) (shift offset yes) (shift offset no)
  | .atomic body => .atomic (shift offset body)
  | .ahead negated body => .ahead negated (shift offset body)
  | .behind negated width body => .behind negated width (shift offset body)
  | .scoped on off body => .scoped on off (shift offset body)
  | regex => regex

def Cursor.shift (offset : Nat) (cursor : Cursor) : Cursor :=
  { cursor with groups := cursor.groups.map fun held => (held.1 + offset, held.2) }

section Shift

variable (offset : Nat) (cursor : Cursor)

theorem Cursor.group?_shift (group : Nat) :
    (cursor.shift offset).group? (group + offset) = cursor.group? group := by
  unfold Cursor.group? Cursor.shift
  dsimp only
  induction cursor.groups with
  | nil => rfl
  | cons held groups ih =>
      rw [List.map_cons, List.lookup_cons, List.lookup_cons, ih]
      have hkey : (group + offset == held.1 + offset) = (group == held.1) := by
        rw [Bool.eq_iff_iff, beq_iff_eq, beq_iff_eq, Nat.add_right_cancel_iff]
      rw [hkey]

theorem Cursor.take_shift (test : Char → Bool) :
    (cursor.shift offset).take test = (cursor.take test).map (Cursor.shift offset) := by
  obtain ⟨before, rest, groups⟩ := cursor
  cases rest with
  | nil => rfl
  | cons d rest =>
      unfold Cursor.take Cursor.shift
      dsimp only
      split
      · rfl
      · rfl

theorem Cursor.takeText_shift (flags : Flags) (text : List Char) :
    (cursor.shift offset).takeText flags text = (cursor.takeText flags text).map (Cursor.shift offset) := by
  induction text generalizing cursor with
  | nil => rfl
  | cons c text ih =>
      rw [Cursor.takeText, Cursor.takeText, Cursor.take_shift, List.flatMap_map, List.map_flatMap]
      exact List.flatMap_congr fun next _ => ih next

theorem Cursor.hold_shift (group : Nat) (next : Cursor) :
    (cursor.shift offset).hold (group + offset) (next.shift offset) =
      (cursor.hold group next).shift offset := rfl

theorem Cursor.back_shift (width : Nat) :
    (cursor.shift offset).back width = (cursor.back width).shift offset := rfl

theorem Cursor.assert_shift (negated : Bool) (found : List Cursor) :
    (cursor.shift offset).assert negated (found.map (Cursor.shift offset)) =
      (cursor.assert negated found).map (Cursor.shift offset) := by
  cases found with
  | nil =>
      rw [List.map_nil, Cursor.assert, Cursor.assert]
      split
      · rfl
      · rfl
  | cons first found =>
      rw [List.map_cons, Cursor.assert, Cursor.assert]
      split
      · rfl
      · rfl

theorem repeatEnds_shift {lazy : Bool} {least : Nat} {most : Option Nat} {step step' : Cursor → List Cursor}
    (hstep : ∀ cursor : Cursor, step' (cursor.shift offset) = (step cursor).map (Cursor.shift offset))
    (fuel count : Nat) (last : Option Nat) :
    repeatEnds lazy least most step' fuel count last (cursor.shift offset) =
      (repeatEnds lazy least most step fuel count last cursor).map (Cursor.shift offset) := by
  induction fuel generalizing count last cursor with
  | zero => rfl
  | succ fuel ih =>
      have hrest : (cursor.shift offset).rest = cursor.rest := rfl
      have hmore : ∀ count last, (step' (cursor.shift offset)).flatMap
          (repeatEnds lazy least most step' fuel count last) =
            ((step cursor).flatMap (repeatEnds lazy least most step fuel count last)).map
              (Cursor.shift offset) := by
        intro count last
        rw [hstep, List.flatMap_map, List.map_flatMap]
        exact List.flatMap_congr fun next _ => ih next count last
      rw [repeatEnds, repeatEnds, hrest, hmore, hmore]
      by_cases hcount : count < least
      · rw [if_pos hcount, if_pos hcount]
      · rw [if_neg hcount, if_neg hcount]
        dsimp only
        split <;> split <;> simp

theorem ends_shift (regex : Regex) (flags : Flags) :
    ends (regex.shift offset) flags (cursor.shift offset) =
      (ends regex flags cursor).map (Cursor.shift offset) := by
  induction regex generalizing flags cursor with
  | empty => rfl
  | char c => exact cursor.take_shift offset _
  | any => exact cursor.take_shift offset _
  | oneOf negated items => exact cursor.take_shift offset _
  | bol | eol | textStart | textEnd | boundary =>
      simp only [shift, ends, apply_ite (List.map (Cursor.shift offset)), List.map_cons, List.map_nil]
      rfl
  | seq first second ihFirst ihSecond =>
      rw [shift, ends_seq, ends_seq, ihFirst, List.flatMap_map, List.map_flatMap]
      exact List.flatMap_congr fun middle _ => ihSecond middle flags
  | alt left right ihLeft ihRight =>
      rw [shift, ends_alt, ends_alt, ihLeft, ihRight, List.map_append]
  | repeated quantifier least most body ih =>
      have hstep : ∀ place : Cursor, ends (body.shift offset) flags (place.shift offset) =
          (ends body flags place).map (Cursor.shift offset) := fun place => ih place flags
      cases quantifier with
      | greedy => exact repeatEnds_shift offset cursor hstep _ _ _
      | lazy => exact repeatEnds_shift offset cursor hstep _ _ _
      | possessive =>
          have hfirst : ∀ place : Cursor, (ends (body.shift offset) flags (place.shift offset)).take 1 =
              ((ends body flags place).take 1).map (Cursor.shift offset) := by
            intro place
            rw [hstep, List.map_take]
          exact (congrArg (List.take 1) (repeatEnds_shift offset cursor hfirst _ _ _)).trans
            List.map_take.symm
  | capture group body ih =>
      rw [shift, ends, ends, ih, List.map_map, List.map_map]
      exact List.map_congr_left fun next _ => cursor.hold_shift offset group next
  | reference group =>
      rw [shift, ends, ends, Cursor.group?_shift]
      cases cursor.group? group with
      | none => rfl
      | some text => exact cursor.takeText_shift offset flags text
  | conditional group yes no ihYes ihNo =>
      rw [shift, ends, ends, Cursor.group?_shift, ihYes, ihNo, ← apply_ite (List.map (Cursor.shift offset))]
  | atomic body ih => rw [shift, ends, ends, ih, List.map_take]
  | ahead negated body ih => rw [shift, ends, ends, ih, Cursor.assert_shift]
  | behind negated width body ih =>
      have hbody : (if cursor.before.length < width then []
          else ends (body.shift offset) flags ((cursor.shift offset).back width)) =
            (if cursor.before.length < width then []
              else ends body flags (cursor.back width)).map (Cursor.shift offset) := by
        rw [Cursor.back_shift, ih, apply_ite (List.map (Cursor.shift offset)), List.map_nil]
      exact (congrArg _ hbody).trans (cursor.assert_shift offset negated _)
  | «scoped» on off body ih => exact ih cursor _

theorem accepts_shift (regex : Regex) (text : List Char) :
    accepts ignoreCase (regex.shift offset) text = accepts ignoreCase regex text := by
  have hends := ends_shift offset ⟨[], text, []⟩ regex (.ofIgnoreCase ignoreCase)
  have hstart : Cursor.shift offset ⟨[], text, []⟩ = ⟨[], text, []⟩ := rfl
  rw [accepts, accepts, ← hstart, hends, List.isEmpty_map]
  rfl

theorem accepts_map_shift (items : List Regex) (text : List Char) :
    (seqAll (items.map (shift offset))).accepts ignoreCase text = (seqAll items).accepts ignoreCase text := by
  have hseq : ∀ items : List Regex, (seqAll items).shift offset = seqAll (items.map (shift offset)) := by
    intro items
    induction items with
    | nil => rfl
    | cons item items ih => exact congrArg (Regex.seq (item.shift offset)) ih
  rw [← hseq, accepts_shift]

end Shift

end Regex
