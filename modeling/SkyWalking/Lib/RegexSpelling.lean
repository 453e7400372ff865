import SkyWalking.Lib.RegexSyntax

/-!
# What a text spells

Some texts are read as the same items wherever they stand between items. Such texts can be put one behind
the other, repeated, and grouped as alternatives.
-/

namespace Regex

variable {lookup : List Char → Option Char}

/-- Between items, the text adds these items. -/
def Spells (lookup : List Char → Option Char) (text : List Char) (items : List Regex) : Prop :=
  ∀ state : State, state.mode = .normal → state.frame.verbose = false →
    ∃ quantified, text.foldlM (step lookup) state = some (state.push items quantified)

/-- Read as themselves between items. -/
def IsLiteral (c : Char) : Prop :=
  c ∉ ['\\', '(', '[', '{', ')', '|', '*', '+', '?', '.', '^', '$']

instance (c : Char) : Decidable (IsLiteral c) := inferInstanceAs (Decidable (_ ∉ _))

theorem State.push_push (state : State) (items items' : List Regex) (quantified quantified' : Bool) :
    (state.push items quantified).push items' quantified' = state.push (items ++ items') quantified' := by
  simp [State.push, Frame.push]

theorem step_normal {state : State} (hmode : state.mode = .normal) (c : Char) :
    step lookup state c = stepNormal state c := by
  unfold step
  rw [hmode]

theorem step_withMode_escape (state : State) (set : Option SetFrame) (c : Char) :
    step lookup (state.withMode (.escape set)) c =
      stepEscape (state.withMode (.escape set)) set c := rfl

theorem step_withMode_setStart (state : State) (c : Char) :
    step lookup (state.withMode .setStart) c =
      if c = '^' then some ((state.withMode .setStart).withMode (.set (.new true)))
      else stepSet (state.withMode .setStart) (.new false) c := rfl

theorem step_withMode_set (state : State) (set : SetFrame) (c : Char) :
    step lookup (state.withMode (.set set)) c = stepSet (state.withMode (.set set)) set c := rfl

theorem literal_toNat (c : Char) : literal c.toNat = .char c := by
  have hvalid : c.toNat.isValidChar := c.valid
  rw [literal, if_pos hvalid, Char.ofNat_toNat]

namespace Spells

variable {text text' : List Char} {items items' : List Regex} {item : Regex}

theorem nil : Spells lookup [] [] := by
  intro state hmode _
  refine ⟨state.quantified, ?_⟩
  simp [State.push, Frame.push, ← hmode]

theorem append (h : Spells lookup text items) (h' : Spells lookup text' items') :
    Spells lookup (text ++ text') (items ++ items') := by
  intro state hmode hverbose
  obtain ⟨quantified, hstate⟩ := h state hmode hverbose
  obtain ⟨quantified', hstate'⟩ := h' (state.push items quantified) rfl hverbose
  refine ⟨quantified', ?_⟩
  rw [List.foldlM_append, hstate, ← State.push_push]
  exact hstate'

theorem of_step {c : Char} (h : ∀ state : State, state.frame.verbose = false →
    stepNormal state c = some (state.add item)) : Spells lookup [c] [item] := by
  intro state hmode hverbose
  refine ⟨false, ?_⟩
  simp only [List.foldlM_cons, List.foldlM_nil, step_normal hmode, h state hverbose, State.add,
    Option.pure_def, Option.bind_eq_bind, Option.bind_some]

theorem char {c : Char} (hc : IsLiteral c) : Spells lookup [c] [.char c] := by
  refine of_step fun state hverbose => ?_
  simp [IsLiteral] at hc
  simp [stepNormal, hverbose, hc]

theorem any : Spells lookup ['.'] [.any] := of_step fun state hverbose => by simp [stepNormal, hverbose]

theorem bol : Spells lookup ['^'] [.bol] := of_step fun state hverbose => by simp [stepNormal, hverbose]

theorem eol : Spells lookup ['$'] [.eol] := of_step fun state hverbose => by simp [stepNormal, hverbose]

/-- Escapes that are not letters or digits stand for themselves. -/
theorem stepEscape_of_not_isAlphanum {c : Char} (hc : ¬ c.isAlphanum) (state : State) :
    stepEscape state none c = some (state.add (.char c)) := by
  have hall : ['A', 'b', 'B', 'Z', 'd', 'D', 's', 'S', 'w', 'W', 'a', 'f', 'n', 'r', 't', 'v', 'x', 'u', 'U',
      'N'].all Char.isAlphanum := by decide
  have hletters : ∀ d ∈ ['A', 'b', 'B', 'Z', 'd', 'D', 's', 'S', 'w', 'W', 'a', 'f', 'n', 'r', 't', 'v',
      'x', 'u', 'U', 'N'], c ≠ d := by
    rintro d hd rfl
    exact hc (List.all_eq_true.mp hall c hd)
  simp only [List.mem_cons, List.not_mem_nil, or_false, forall_eq_or_imp, forall_eq] at hletters
  obtain ⟨hA, hb, hB, hZ, hd, hD, hs, hS, hw, hW, ha, hf, hn, hr, ht, hv, hx, hu, hU, hN⟩ := hletters
  simp only [Char.isAlphanum, Bool.or_eq_true, not_or, Bool.not_eq_true] at hc
  simp [stepEscape, place?, class?, stepCode, control?, State.deliver, literal_toNat, *]

theorem escaped {c : Char} (hc : ¬ c.isAlphanum) : Spells lookup ['\\', c] [.char c] := by
  intro state hmode hverbose
  refine ⟨false, ?_⟩
  have hbackslash : stepNormal state '\\' = some (state.withMode (.escape none)) := by
    simp [stepNormal, hverbose, whitespace]
  simp only [List.foldlM_cons, List.foldlM_nil, step_normal hmode, hbackslash, Option.bind_eq_bind,
    Option.bind_some, step_withMode_escape, stepEscape_of_not_isAlphanum hc, Option.pure_def]
  rfl

theorem notChar {c : Char} (hc : c ≠ '\\') : Spells lookup ['[', '^', c, ']'] [.notChar c] := by
  intro state hmode hverbose
  refine ⟨false, ?_⟩
  have hbracket : stepNormal state '[' = some (state.withMode .setStart) := by
    simp [stepNormal, hverbose, whitespace]
  have hchar : stepSet ((state.withMode .setStart).withMode (.set (.new true))) (.new true) c =
      some (state.withMode (.set ⟨true, [], some (.range c.toNat c.toNat), false⟩)) := by
    simp [stepSet, hc, SetFrame.new, SetFrame.add, State.withMode]
  have hclose : stepSet (state.withMode (.set ⟨true, [], some (.range c.toNat c.toNat), false⟩))
      ⟨true, [], some (.range c.toNat c.toNat), false⟩ ']' = some (state.add (.notChar c)) := by
    simp [stepSet, SetFrame.close, State.add, State.push, State.withMode, Regex.notChar]
  simp only [List.foldlM_cons, List.foldlM_nil, step_normal hmode, hbracket, Option.bind_eq_bind,
    Option.bind_some, step_withMode_setStart, if_true, step_withMode_set, hchar, hclose, State.add,
    Option.pure_def]

theorem quantify_push (frame : Frame) (least : Nat) (most : Option Nat) (hitem : item.repeatable) :
    (frame.push [item]).quantify least most = some (frame.push [.repeated .greedy least most item]) := by
  simp [Frame.quantify, Frame.push, hitem]

theorem requantify_push (frame : Frame) (quantifier : Quantifier) (hitem : item.repeatable) :
    (frame.push [item]).requantify quantifier = none := by
  unfold Frame.requantify Frame.push
  rw [List.getLast?_concat]
  cases item with
  | repeated => cases hitem
  | _ => rfl

theorem quantified (h : Spells lookup text [item]) (hitem : item.repeatable) {c : Char} {least : Nat}
    {most : Option Nat} (hstep : ∀ (state : State) (quantified : Bool), state.frame.verbose = false →
      stepNormal (state.push [item] quantified) c =
        (state.push [item] quantified).quantify least most) :
    Spells lookup (text ++ [c]) [.repeated .greedy least most item] := by
  intro state hmode hverbose
  obtain ⟨quantified, hstate⟩ := h state hmode hverbose
  refine ⟨true, ?_⟩
  have hquantify : step lookup (state.push [item] quantified) c =
      some (state.push [.repeated .greedy least most item] true) := by
    rw [step_normal rfl, hstep state quantified hverbose, State.quantify, State.push,
      quantify_push _ _ _ hitem]
    rfl
  rw [List.foldlM_append, hstate]
  simp [hquantify]

theorem star (h : Spells lookup text [item]) (hitem : item.repeatable) :
    Spells lookup (text ++ ['*']) [.star item] :=
  h.quantified hitem fun state quantified hverbose => by
    simp [stepNormal, State.push, Frame.push, hverbose]

theorem modify_push (state : State) (quantified : Bool) (quantifier : Quantifier) (least : Nat)
    (most : Option Nat) (hitem : item.repeatable) :
    (state.push [item] quantified).modify quantifier least most =
      (state.push [item] quantified).quantify least most := by
  have hnone : (state.push [item] quantified).frame.requantify quantifier = none :=
    requantify_push state.frame quantifier hitem
  rw [State.modify, hnone]
  cases quantified with
  | false => rfl
  | true => rfl

theorem plus (h : Spells lookup text [item]) (hitem : item.repeatable) :
    Spells lookup (text ++ ['+']) [.plus item] :=
  h.quantified hitem fun state quantified hverbose => by
    rw [← modify_push state quantified .possessive 1 none hitem]
    simp [stepNormal, State.push, Frame.push, hverbose]

theorem opt (h : Spells lookup text [item]) (hitem : item.repeatable) :
    Spells lookup (text ++ ['?']) [.opt item] :=
  h.quantified hitem fun state quantified hverbose => by
    rw [← modify_push state quantified .lazy 0 (some 1) hitem]
    simp [stepNormal, State.push, Frame.push, hverbose]

end Spells

/-- A frame with further alternatives. -/
def Frame.branchAll : Frame → List (List Regex) → Frame
  | frame, [] => frame
  | frame, items :: rest => (frame.nextBranch.push items).branchAll rest

theorem Frame.body_branchAll (frame : Frame) (branches : List (List Regex)) :
    (frame.branchAll branches).body =
      altAll (frame.branches ++ seqAll frame.items :: branches.map seqAll) := by
  induction branches generalizing frame with
  | nil => rfl
  | cons items rest ih =>
      rw [Frame.branchAll, ih]
      simp [Frame.push, Frame.nextBranch]

theorem Frame.kind_branchAll (frame : Frame) (branches : List (List Regex)) :
    (frame.branchAll branches).kind = frame.kind := by
  induction branches generalizing frame with
  | nil => rfl
  | cons items rest ih => exact ih _

/-- Texts with bars between them are read as alternatives. -/
theorem foldlM_alternatives {texts : List (List Char)} {branches : List (List Regex)}
    (h : List.Forall₂ (Spells lookup) texts branches) : ∀ {text : List Char} {items : List Regex},
      Spells lookup text items → ∀ state : State, state.mode = .normal → state.frame.verbose = false →
      state.frame.kind = .plain → ∃ quantified,
        (['|'].intercalate (text :: texts)).foldlM (step lookup) state =
          some { state with
            frame := (state.frame.push items).branchAll branches
            quantified := quantified } := by
  induction h with
  | nil =>
      intro text items htext state hmode hverbose _
      obtain ⟨quantified, hstate⟩ := htext state hmode hverbose
      refine ⟨quantified, ?_⟩
      rw [List.intercalate_singleton, hstate, State.push, ← hmode]
      rfl
  | @cons next nextItems texts branches hnext _ ih =>
      intro text items htext state hmode hverbose hkind
      obtain ⟨quantified, hstate⟩ := htext state hmode hverbose
      have hbar : step lookup (state.push items quantified) '|' =
          some { state with
            frame := (state.frame.push items).nextBranch
            quantified := false } := by
        rw [step_normal rfl]
        simp [stepNormal, State.push, Frame.push, State.nextBranch, Frame.isFull, hverbose, hkind,
          hmode, whitespace]
      obtain ⟨quantified', hrest⟩ := ih hnext
        { state with
          frame := (state.frame.push items).nextBranch
          quantified := false } hmode hverbose hkind
      refine ⟨quantified', ?_⟩
      rw [List.intercalate_cons_cons, List.append_assoc, List.foldlM_append, hstate]
      simp only [List.singleton_append, Option.bind_eq_bind, Option.bind_some, List.foldlM_cons, hbar,
        hrest]
      rfl

/-- A group of alternatives. -/
theorem Spells.group {text : List Char} {items : List Regex} {texts : List (List Char)}
    {branches : List (List Regex)} (h : Spells lookup text items)
    (hrest : List.Forall₂ (Spells lookup) texts branches) :
    Spells lookup ("(?:".toList ++ ['|'].intercalate (text :: texts) ++ [')'])
      [altAll ((items :: branches).map seqAll)] := by
  intro state hmode hverbose
  refine ⟨false, ?_⟩
  have hparenthesis : stepNormal state '(' = some (state.withMode .open) := by
    simp [stepNormal, hverbose, whitespace]
  have hquestion : step lookup (state.withMode .open) '?' = some (state.withMode .extension) := rfl
  have hcolon : step lookup (state.withMode .extension) ':' = some (state.enterGroup .plain) := rfl
  have hopen : "(?:".toList.foldlM (step lookup) state = some (state.enterGroup .plain) := by
    have htext : "(?:".toList = ['(', '?', ':'] := rfl
    simp only [htext, List.foldlM_cons, List.foldlM_nil, step_normal hmode, hparenthesis, hquestion,
      hcolon, Option.bind_eq_bind, Option.bind_some, Option.pure_def]
  obtain ⟨quantified, halternatives⟩ :=
    foldlM_alternatives hrest h (state.enterGroup .plain) rfl hverbose rfl
  have hclose : step lookup { state.enterGroup .plain with
      frame := ((state.enterGroup .plain).frame.push items).branchAll branches
      quantified := quantified } ')' =
        some (state.push [altAll ((items :: branches).map seqAll)] false) := by
    rw [step_normal rfl]
    simp [stepNormal, State.close, State.enterGroup, State.enter, Frame.kind_branchAll, Frame.body_branchAll,
      State.add, State.push, Frame.push, Frame.new, whitespace]
  rw [List.foldlM_append, List.foldlM_append, hopen]
  simp only [Option.bind_eq_bind, Option.bind_some, halternatives, List.foldlM_cons, List.foldlM_nil,
    hclose, Option.pure_def]

theorem forall₂_spells {α : Type} {choices : List α} {text : α → List Char} {items : α → List Regex}
    (h : ∀ choice ∈ choices, Spells lookup (text choice) (items choice)) :
    List.Forall₂ (Spells lookup) (choices.map text) (choices.map items) := by
  rw [List.forall₂_map_left_iff, List.forall₂_map_right_iff, List.forall₂_same]
  exact h

/-- A group with one alternative for each of several choices. -/
theorem Spells.choices {α : Type} {choices : List α} (hne : choices ≠ []) {text : α → List Char}
    {items : α → List Regex} (h : ∀ choice ∈ choices, Spells lookup (text choice) (items choice)) :
    Spells lookup ("(?:".toList ++ ['|'].intercalate (choices.map text) ++ [')'])
      [altAll (choices.map fun choice => seqAll (items choice))] := by
  obtain ⟨choice, rest, rfl⟩ := List.exists_cons_of_ne_nil hne
  obtain ⟨hchoice, hrest⟩ := List.forall_mem_cons.mp h
  have hgroup := Spells.group hchoice (forall₂_spells hrest)
  rw [List.map_cons, List.map_map] at hgroup
  exact hgroup

theorem compile_of_spells {text : List Char} {items : List Regex} (h : Spells lookup text items) :
    compile lookup text = some (seqAll items) := by
  obtain ⟨quantified, hstate⟩ := h .init rfl rfl
  rw [compile, hstate]
  simp [State.init, State.push, State.finish, State.settle, Frame.push, Frame.new, Frame.body, altAll]

theorem compile_alternatives {text : List Char} {items : List Regex} {texts : List (List Char)}
    {branches : List (List Regex)} (h : Spells lookup text items)
    (hrest : List.Forall₂ (Spells lookup) texts branches) :
    compile lookup (['|'].intercalate (text :: texts)) =
      some (altAll ((items :: branches).map seqAll)) := by
  obtain ⟨quantified, hstate⟩ := foldlM_alternatives hrest h .init rfl rfl rfl
  rw [compile, hstate]
  simp [State.init, State.finish, State.settle, Frame.push, Frame.new, Frame.body_branchAll]

/-! A piece of a text may end with an item that only what follows completes, and open groups whose numbers
depend on where it stands. -/

/-- The items of a piece are added, with its groups behind those that are there. -/
def State.pushPiece (state : State) (groups : List (Option Width)) (items : List Regex)
    (quantified : Bool) : State :=
  { state.push (items.map (shift state.groups.length)) quantified with groups := state.groups ++ groups }

/-- Where a bar, a dollar sign or nothing follows, the piece adds these items, and groups of these widths. -/
def Stands (lookup : List Char → Option Char) (piece : List Char) (groups : List (Option Width))
    (items : List Regex) : Prop :=
  ∀ state : State, state.mode = .normal → state.frame.verbose = false →
    ∃ pending quantified, piece.foldlM (step lookup) state = some pending ∧
      pending.settle = some (state.pushPiece groups items quantified) ∧
      ∀ c ∈ ['|', '$'], step lookup pending c = stepNormal (state.pushPiece groups items quantified) c

/-- `re.match(pattern, text)` finds a match. -/
def Matches (lookup : List Char → Option Char) (ignoreCase : Bool) (pattern text : List Char) : Prop :=
  ∃ regex, compile lookup pattern = some regex ∧ regex.accepts ignoreCase text

/-- A piece before the last one matches at the beginning of the text, or the last one matches all of it. -/
def MatchesPieces (lookup : List Char → Option Char) (ignoreCase : Bool) (pieces : List (List Char))
    (text : List Char) : Prop :=
  (∃ piece ∈ pieces.dropLast, Matches lookup ignoreCase piece text) ∨
    ∃ piece ∈ pieces.getLast?, Matches lookup ignoreCase (piece ++ ['$']) text

theorem State.settle_of_normal {state : State} (hmode : state.mode = .normal) :
    state.settle = some state := by
  unfold State.settle
  rw [hmode]

theorem Spells.stands {text : List Char} {items : List Regex} (h : Spells lookup text items)
    (hitems : ∀ offset, items.map (shift offset) = items) : Stands lookup text [] items := by
  intro state hmode hverbose
  obtain ⟨quantified, hstate⟩ := h state hmode hverbose
  have hpiece : state.pushPiece [] items quantified = state.push items quantified := by
    rw [State.pushPiece, hitems, List.append_nil]
    rfl
  refine ⟨state.push items quantified, quantified, hstate, ?_, fun c _ => ?_⟩
  · rw [hpiece]
    exact State.settle_of_normal rfl
  · rw [hpiece]
    exact step_normal rfl c

theorem State.finish_of_settle {state settled : State} (h : state.settle = some settled)
    (hmode : settled.mode = .normal) : state.finish = settled.finish := by
  have hcomment : state.mode ≠ .lineComment false := by
    intro hline
    have hsame : state.settle = some state := by
      unfold State.settle
      rw [hline]
    rw [hsame, Option.some.injEq] at h
    rw [← h, hline] at hmode
    cases hmode
  have hcomment' : settled.mode ≠ .lineComment false := by
    rw [hmode]
    exact Mode.noConfusion
  rw [State.finish, State.finish, if_neg hcomment, if_neg hcomment', h, State.settle_of_normal hmode]

namespace Stands

variable {piece : List Char} {groups : List (Option Width)} {items : List Regex} {state : State}

theorem foldlM_bar (h : Stands lookup piece groups items) (hmode : state.mode = .normal)
    (hverbose : state.frame.verbose = false) (hkind : state.frame.kind = .plain) :
    (piece ++ ['|']).foldlM (step lookup) state =
      some { state with
        frame := (state.frame.push (items.map (shift state.groups.length))).nextBranch
        groups := state.groups ++ groups
        quantified := false } := by
  obtain ⟨pending, quantified, hpiece, -, hnext⟩ := h state hmode hverbose
  rw [List.foldlM_append, hpiece]
  simp [hnext, stepNormal, State.pushPiece, State.push, Frame.push, State.nextBranch, Frame.isFull, hverbose,
    hkind, hmode, whitespace]

theorem foldlM_dollar (h : Stands lookup piece groups items) (hmode : state.mode = .normal)
    (hverbose : state.frame.verbose = false) :
    (piece ++ ['$']).foldlM (step lookup) state =
      some { state with
        frame := state.frame.push (items.map (shift state.groups.length) ++ [.eol])
        groups := state.groups ++ groups
        quantified := false } := by
  obtain ⟨pending, quantified, hpiece, -, hnext⟩ := h state hmode hverbose
  rw [List.foldlM_append, hpiece]
  simp [hnext, stepNormal, State.pushPiece, State.push, Frame.push, State.add, hverbose, hmode]

theorem matches_iff (h : Stands lookup piece groups items) (offset : Nat) (ignoreCase : Bool)
    (text : List Char) :
    Matches lookup ignoreCase piece text ↔
      (seqAll (items.map (shift offset))).accepts ignoreCase text := by
  obtain ⟨pending, quantified, hpiece, hsettle, -⟩ := h .init rfl rfl
  have hcompile : compile lookup piece = some (seqAll (items.map (shift 0))) := by
    rw [compile, hpiece, Option.bind_some, State.finish_of_settle hsettle rfl]
    simp [State.pushPiece, State.init, State.push, State.finish, State.settle, Frame.push, Frame.new, Frame.body,
      altAll]
  simp only [Matches, hcompile, Option.some.injEq, exists_eq_left', accepts_map_shift]

theorem matches_dollar_iff (h : Stands lookup piece groups items) (offset : Nat) (ignoreCase : Bool)
    (text : List Char) :
    Matches lookup ignoreCase (piece ++ ['$']) text ↔
      (seqAll (items.map (shift offset) ++ [.eol])).accepts ignoreCase text := by
  have hcompile : compile lookup (piece ++ ['$']) = some (seqAll ((items ++ [eol]).map (shift 0))) := by
    rw [compile, h.foldlM_dollar rfl rfl]
    simp [State.init, State.finish, State.settle, Frame.push, Frame.new, Frame.body, altAll, shift]
  have heol : items.map (shift offset) ++ [eol] = (items ++ [eol]).map (shift offset) := by
    rw [List.map_append]
    rfl
  rw [heol]
  simp only [Matches, hcompile, Option.some.injEq, exists_eq_left', accepts_map_shift]

end Stands

/-- Pieces with bars between them are read as alternatives, and `$` belongs to the last one. -/
theorem foldlM_pieces (ignoreCase : Bool) {pieces : List (List Char)} (hpieces : ∀ piece ∈ pieces,
    ∃ groups items, Stands lookup piece groups items) : ∀ (piece : List Char), (∃ groups items,
      Stands lookup piece groups items) → ∀ state : State, state.mode = .normal →
      state.frame.verbose = false → state.frame.kind = .plain → ∃ first branches groups,
        (['|'].intercalate (piece :: pieces) ++ ['$']).foldlM (step lookup) state =
          some { state with
            frame := (state.frame.push first).branchAll branches
            groups := groups
            quantified := false } ∧
        ∀ text, (∃ branch ∈ first :: branches, (seqAll branch).accepts ignoreCase text) ↔
          MatchesPieces lookup ignoreCase (piece :: pieces) text := by
  induction pieces with
  | nil =>
      rintro piece ⟨groups, items, hpiece⟩ state hmode hverbose hkind
      refine ⟨items.map (shift state.groups.length) ++ [.eol], [], state.groups ++ groups, ?_,
        fun text => ?_⟩
      · rw [List.intercalate_singleton]
        exact hpiece.foldlM_dollar hmode hverbose
      · have hlast := hpiece.matches_dollar_iff state.groups.length ignoreCase text
        simp [MatchesPieces, hlast]
  | cons next pieces ih =>
      rintro piece ⟨groups, items, hpiece⟩ state hmode hverbose hkind
      obtain ⟨hnext, hrest⟩ := List.forall_mem_cons.mp hpieces
      have hbar := hpiece.foldlM_bar hmode hverbose hkind
      obtain ⟨first, branches, groups', hstate, hmatches⟩ := ih hrest next hnext
        { state with
          frame := (state.frame.push (items.map (shift state.groups.length))).nextBranch
          groups := state.groups ++ groups
          quantified := false } hmode hverbose hkind
      refine ⟨items.map (shift state.groups.length), first :: branches, groups', ?_, fun text => ?_⟩
      · rw [List.intercalate_cons_cons, List.append_assoc, List.append_assoc, ← List.append_assoc,
          List.foldlM_append, hbar]
        exact hstate
      · have hfirst := hpiece.matches_iff state.groups.length ignoreCase text
        rw [List.exists_mem_cons_iff, ← hfirst, hmatches text]
        unfold MatchesPieces
        rw [List.dropLast_cons_of_ne_nil (List.cons_ne_nil _ _), List.getLast?_cons_cons,
          List.exists_mem_cons_iff, or_assoc]

/-- `^` in front and `$` behind a text of several pieces: the first piece matches at the beginning anyway. -/
theorem compile_pieces {pieces : List (List Char)} (hne : pieces ≠ []) (hpieces : ∀ piece ∈ pieces,
    ∃ groups items, Stands lookup piece groups items) (ignoreCase : Bool) :
    ∃ regex, compile lookup ('^' :: ['|'].intercalate pieces ++ ['$']) = some regex ∧
      ∀ text, regex.accepts ignoreCase text ↔ MatchesPieces lookup ignoreCase pieces text := by
  obtain ⟨piece, rest, rfl⟩ := List.exists_cons_of_ne_nil hne
  obtain ⟨hpiece, hrest⟩ := List.forall_mem_cons.mp hpieces
  obtain ⟨first, branches, groups, hstate, hmatches⟩ :=
    foldlM_pieces ignoreCase hrest piece hpiece (State.init.push [.bol] false) rfl rfl rfl
  have hcaret : step lookup .init '^' = some (State.init.push [.bol] false) := rfl
  have hbol : Regex.accepts ignoreCase (seqAll ([.bol] ++ first)) = (seqAll first).accepts ignoreCase := by
    funext text
    exact Bool.eq_iff_iff.mpr accepts_bol
  refine ⟨altAll ((([.bol] ++ first) :: branches).map seqAll), ?_, fun text => ?_⟩
  · rw [compile, List.cons_append, List.foldlM_cons, hcaret, Option.bind_eq_bind, Option.bind_some, hstate]
    simp [State.init, State.push, State.finish, State.settle, Frame.push, Frame.new, Frame.body_branchAll]
  · rw [accepts_altAll (by simp), ← hmatches text]
    simp only [List.map_cons, List.exists_mem_cons_iff, List.mem_map, exists_exists_and_eq_and, hbol]

end Regex
