import SkyWalking.Proof.BlockOpening

/-!
# Programs of nested span blocks

The induction over programs. Inside a block, `Unwound` says that an execution has left the stacks alone
and has done to the ledger what `Ledger.Nested` allows. An outermost block then archives its segment
when it exits, with everything that was created in it.
-/

namespace SkyWalking

open World

theorem ledger_edit (env : Env) (w : World) (span : Nat) (change : Edit) :
    (change.run env span w).1.ledger = w.ledger := by
  cases change with
  | op value => exact ledger_modifySpan_of_eq w span rfl
  | peer value => exact ledger_modifySpan_of_eq w span rfl
  | component value => exact ledger_modifySpan_of_eq w span rfl
  | layer value => exact ledger_modifySpan_of_eq w span rfl
  | tag value =>
      simp only [Edit.run, Span.tag]
      split
      · rfl
      · exact ledger_modifySpan_of_eq w span rfl
  | log text => exact ledger_modifySpan_of_eq w span rfl

theorem quiet_edit (env : Env) {w : World} (hok : w.VarsOk) (span : Nat) (change : Edit) :
    Quiet w (change.run env span w).1 := by
  cases change with
  | op value => exact Quiet.of_eq hok rfl rfl rfl
  | peer value => exact Quiet.of_eq hok rfl rfl rfl
  | component value => exact Quiet.of_eq hok rfl rfl rfl
  | layer value => exact Quiet.of_eq hok rfl rfl rfl
  | tag value =>
      simp only [Edit.run, Span.tag]
      split
      · exact Quiet.refl hok
      · exact Quiet.of_eq hok rfl rfl rfl
  | log text => exact Quiet.of_eq hok rfl rfl rfl

theorem noteRaised_quiet (env : Env) (answers : BlockAnswers) {w : World} (hok : w.VarsOk)
    (span : Nat) (raised : Option Raised) :
    Quiet w (noteRaised env answers span raised w) ∧
      (noteRaised env answers span raised w).ledger = w.ledger := by
  unfold noteRaised
  split
  · exact ⟨Quiet.of_eq hok rfl rfl rfl, ledger_modifySpan_of_eq w span rfl⟩
  · exact ⟨Quiet.refl hok, rfl⟩

theorem carriers_stop (task s : Nat) (queueFull : Bool) (w : World) :
    (Span.stop task s queueFull w).1.carriers = w.carriers := by
  have hcontext : ∀ (c : Nat) (w' : World),
      (SpanContext.stop task c s queueFull w').1.carriers = w'.carriers := by
    intro c w'
    cases hnoop : (w'.context c).noop with
    | true =>
        rw [SpanContext.stop_of_noop task c s queueFull w' hnoop]
        rfl
    | false =>
        rw [SpanContext.stop_of_real task c s queueFull w' hnoop]
        dsimp only
        split
        · rw [SpanContext.left_eq]
          rfl
        · rw [SpanContext.left_eq]
          rfl
  unfold Span.stop
  dsimp only
  split
  · exact hcontext _ _
  · rfl

/-- A world in which the span `t` of the innermost block is on top of the stack. -/
structure Inside (task t : Nat) (w : World) : Prop where
  varsOk : w.VarsOk
  top : (w.view task).getLast? = some t
  allocated : ∀ s ∈ w.view task, s < w.spans.size
  ledgerTop : w.ledger.Top t

/-- A block that is nested in another one. -/
def BlockRecord.Inner (b : BlockRecord) : Prop :=
  ∃ e, b.enclosing = some e ∧ (∀ t, b.after.view t = b.before.view t) ∧
    (b.before.span e).toLedger.noop = (b.before.ledger.context (b.before.span e).context).noop ∧
    Ledger.Nested (b.before.span e).context b.created b.closed b.before.ledger b.after.ledger ∧
    ((b.before.span e).cls = .NoopSpan → (b.after.span b.span).cls = .NoopSpan)

/-- An execution inside the block of `t`. -/
structure Unwound (t : Nat) (w : World) (r : Result) : Prop where
  varsOk : r.world.VarsOk
  view_eq : ∀ task, r.world.view task = w.view task
  carriers_eq : r.world.carriers = w.carriers
  nested : Ledger.Nested (w.span t).context r.created r.closed w.ledger r.world.ledger
  blocks : ∀ b ∈ r.blocks, b.Inner

namespace Unwound

variable {task t : Nat} {w : World} {r r' : Result}

theorem quiet {w' : World} (raised : Option Raised) (hquiet : Quiet w w')
    (hledger : w'.ledger = w.ledger) : Unwound t w (Result.quiet w' raised) where
  varsOk := hquiet.varsOk
  view_eq := hquiet.view_eq
  carriers_eq := hquiet.carriers_eq
  nested := by
    simp only [Result.quiet, hledger]
    exact Ledger.Nested.refl _ _
  blocks _ hb := by simp [Result.quiet] at hb

theorem context_eq (h : Unwound t w r) (ht : t < w.spans.size) :
    (r.world.span t).context = (w.span t).context :=
  congrArg Ledger.Span.context (h.nested.span_eq t ht)

theorem inside (h : Unwound t w r) (hin : Inside task t w) : Inside task t r.world where
  varsOk := h.varsOk
  top := by rw [h.view_eq, hin.top]
  allocated s hs := by
    rw [h.view_eq] at hs
    exact (hin.allocated s hs).trans_le h.nested.spans_size_le
  ledgerTop := hin.ledgerTop.nested h.nested

theorem andThen (h : Unwound t w r) (h' : Unwound t r.world r') (ht : t < w.spans.size)
    (raised : Option Raised) : Unwound t w (r.andThen r' raised) where
  varsOk := h'.varsOk
  view_eq task := (h'.view_eq task).trans (h.view_eq task)
  carriers_eq := h'.carriers_eq.trans h.carriers_eq
  nested := by
    have hnested := h'.nested
    rw [h.context_eq ht] at hnested
    exact h.nested.trans hnested
  blocks b hb := by
    rcases List.mem_append.mp hb with hb | hb
    · exact h.blocks b hb
    · exact h'.blocks b hb

end Unwound

/-- The world around the body of a block. -/
structure BlockRun (env : Env) (task : Nat) (answers : BlockAnswers) (call : Call) (w w' : World)
    (span : Nat) (body : Result) : Prop where
  varsOk : w.VarsOk
  allocated : ∀ s ∈ w.view task, s < w.spans.size
  opening : openBlock env task answers call w = (w', .ok span)
  body : Unwound span w' body

namespace BlockRun

variable {env : Env} {task : Nat} {answers : BlockAnswers} {call : Call} {w w' : World} {span : Nat}
  {body : Result}

/-- The world in which `stop` is called. -/
def inside (env : Env) (answers : BlockAnswers) (span : Nat) (body : Result) : World :=
  noteRaised env answers span body.raised body.world

def after (env : Env) (task : Nat) (answers : BlockAnswers) (span : Nat) (body : Result) : World :=
  (Span.stop task span answers.stopFull (inside env answers span body)).1

theorem opened (h : BlockRun env task answers call w w' span body) :
    Opened task call w span w'.ledger :=
  Opened.of_openBlock env h.varsOk h.opening

theorem inside_ledger (h : BlockRun env task answers call w w' span body) :
    (inside env answers span body).ledger = body.world.ledger :=
  (noteRaised_quiet env answers h.body.varsOk span body.raised).2

theorem after_ledger (h : BlockRun env task answers call w w' span body) :
    (after env task answers span body).ledger = body.world.ledger.stop span := by
  rw [after, ledger_stop, h.inside_ledger]

theorem inside_quiet (h : BlockRun env task answers call w w' span body) :
    Quiet body.world (inside env answers span body) :=
  (noteRaised_quiet env answers h.body.varsOk span body.raised).1

theorem after_carriers (h : BlockRun env task answers call w w' span body) :
    (after env task answers span body).carriers = w.carriers := by
  rw [after, carriers_stop, h.inside_quiet.carriers_eq, h.body.carriers_eq]
  exact (openBlock_view env h.varsOk h.allocated h.opening).2.1

/-- The stack is what it was: a new span is popped, a reused one stays where it is. -/
theorem after_view (h : BlockRun env task answers call w w' span body)
    (hdepth : (body.world.span span).depth = 1 ↔ span ∉ w.view task) (t : Nat) :
    (after env task answers span body).view t = w.view t := by
  obtain ⟨-, -, hview⟩ := openBlock_view env h.varsOk h.allocated h.opening
  have hdepthInside : ((inside env answers span body).span span).depth =
      (body.world.span span).depth :=
    congrArg (fun l => (l.span span).depth) h.inside_ledger
  rw [after, view_stop h.inside_quiet.varsOk, h.inside_quiet.view_eq, h.inside_quiet.view_eq,
    h.body.view_eq, h.body.view_eq, hview, hview, if_pos rfl, hdepthInside]
  by_cases hmem : span ∈ w.view task
  · have hne : (body.world.span span).depth ≠ 1 := fun hone => hdepth.mp hone hmem
    rw [if_neg (fun hand => hne hand.2), pushed, if_pos hmem]
    split
    · next heq => rw [heq]
    · rfl
  · have hone := hdepth.mpr hmem
    rw [pushed, if_neg hmem]
    by_cases heq : t = task
    · rw [if_pos ⟨heq, hone⟩, List.erase_append_right _ hmem, List.erase_cons_head,
        List.append_nil, heq]
    · rw [if_neg (fun hand => heq hand.1), if_neg heq]

theorem after_varsOk (h : BlockRun env task answers call w w' span body) :
    (after env task answers span body).VarsOk :=
  h.inside_quiet.varsOk.stop task span answers.stopFull

end BlockRun

theorem Inside.ne_nil {task t : Nat} {w : World} (hin : Inside task t w) : w.view task ≠ [] := by
  intro hempty
  have htop := hin.top
  rw [hempty] at htop
  cases htop

theorem Inside.of_top {task t top : Nat} {w : World} (hin : Inside task t w)
    (htop : (w.view task).getLast? = some top) : top = t := by
  rw [hin.top] at htop
  exact (Option.some.inj htop).symm

theorem Inside.top_opened {task t : Nat} {call : Call} {w : World} {span : Nat} {l : Ledger}
    (hin : Inside task t w) (hopened : Opened task call w span l) : l.Top span := by
  have hcount := hin.ledgerTop.nspans_pos
  cases hopened with
  | rootNoop hempty => exact absurd hempty hin.ne_nil
  | rootSuppressed hempty => exact absurd hempty hin.ne_nil
  | root hempty => exact absurd hempty hin.ne_nil
  | noop top htop hnoop =>
      rw [hin.of_top htop] at hnoop ⊢
      exact .noop hin.ledgerTop.context_lt hnoop hcount.le
  | suppressed top htop hreal =>
      have hnew := w.ledger.context_newContext_size true
      exact Ledger.Top.noop (l := w.ledger.newContext true) (Nat.lt_succ_self _)
        (congrArg Ledger.Context.noop hnew) (congrArg Ledger.Context.nspans hnew).ge
  | reused top htop hreal hreuse =>
      rw [hin.of_top htop]
      exact hin.ledgerTop.reused
  | created top htop hreal hdepth =>
      rw [hin.of_top htop] at hreal ⊢
      have hsid := hin.ledgerTop.last_nonneg (hin.ledgerTop.noop_eq.trans hreal)
      exact .created _ hin.ledgerTop.context_lt hreal hcount.le ((by decide : (-1 : Int) ≤ 0).trans hsid)
  | detached top htop hreal hdepth =>
      rw [hin.of_top htop] at hdepth
      exact absurd hdepth hin.ledgerTop.depth_pos.ne'

theorem Inside.openBlock (env : Env) {task t : Nat} {answers : BlockAnswers} {call : Call}
    {w w' : World} {span : Nat} (hin : Inside task t w)
    (hopen : openBlock env task answers call w = (w', .ok span)) : Inside task span w' := by
  obtain ⟨hok, -, hviews⟩ := openBlock_view env hin.varsOk hin.allocated hopen
  have hview : w'.view task = pushed span (w.view task) := by
    rw [hviews, if_pos rfl]
  have hopened := Opened.of_openBlock env hin.varsOk hopen
  have hledgerTop := hin.top_opened hopened
  have hle : w.spans.size ≤ w'.spans.size := hopened.spans_size_le
  constructor
  · exact hok
  · rw [hview, pushed]
    split
    · next hmem =>
      rcases hopened.span_cases with hnew | htop
      · exact absurd (hin.allocated span hmem) (by omega)
      · exact htop
    · simp
  · intro s hs
    rw [hview, pushed] at hs
    split at hs
    · exact (hin.allocated s hs).trans_le hle
    · rcases List.mem_append.mp hs with hs | hs
      · exact (hin.allocated s hs).trans_le hle
      · rw [List.mem_singleton.mp hs]
        exact hledgerTop.lt
  · exact hledgerTop

namespace BlockRun

variable {env : Env} {task : Nat} {answers : BlockAnswers} {call : Call} {w w' : World} {span : Nat}
  {body : Result}

/-- A span is recorded as created by a block iff it is new and real. -/
def Own (w : World) (span : Nat) (body : Result) : Prop :=
  w.spans.size ≤ span ∧ (body.world.ledger.span span).noop = false

theorem own_iff (h : BlockRun env task answers call w w' span body) :
    (w.spans.size ≤ span ∧ ((inside env answers span body).span span).cls ≠ .NoopSpan) ↔
      Own w span body := by
  have hnoop : (((inside env answers span body).ledger).span span).noop =
      (body.world.ledger.span span).noop := by rw [h.inside_ledger]
  rw [Own, ← hnoop]
  simp [Span.toLedger]

theorem around_of_own (h : BlockRun env task answers call w w' span body) (hown : Own w span body)
    (enclosing : Option Nat) :
    Result.around w (inside env answers span body) (after env task answers span body) span enclosing
      body =
    { world := after env task answers span body
      raised := body.raised
      created := (span, enclosing) :: body.created
      closed := body.closed ++ [span]
      blocks := body.blocks ++ [
        { before := w
          inside := inside env answers span body
          after := after env task answers span body
          span := span
          enclosing := enclosing
          created := (span, enclosing) :: body.created
          closed := body.closed ++ [span] }] } := by
  simp only [Result.around, if_pos (h.own_iff.mpr hown)]

theorem around_of_not_own (h : BlockRun env task answers call w w' span body)
    (hown : ¬ Own w span body) (enclosing : Option Nat) :
    Result.around w (inside env answers span body) (after env task answers span body) span enclosing
      body =
    { world := after env task answers span body
      raised := body.raised
      created := body.created
      closed := body.closed
      blocks := body.blocks ++ [
        { before := w
          inside := inside env answers span body
          after := after env task answers span body
          span := span
          enclosing := enclosing
          created := body.created
          closed := body.closed }] } := by
  simp only [Result.around, if_neg (mt h.own_iff.mp hown)]

theorem body_span (h : BlockRun env task answers call w w' span body) {l : Ledger}
    (hledger : w'.ledger = l) (hlt : span < l.spans.size) :
    body.world.ledger.span span = l.span span := by
  rw [← hledger]
  exact h.body.nested.span_eq span (hledger ▸ hlt)

theorem depth_iff {t : Nat} (h : BlockRun env task answers call w w' span body)
    (hin : Inside task t w) : (body.world.span span).depth = 1 ↔ span ∉ w.view task := by
  have hopened := h.opened
  have hlt := (hin.top_opened hopened).lt
  have hdepth : (body.world.span span).depth = (w'.ledger.span span).depth :=
    congrArg Ledger.Span.depth (h.body_span rfl hlt)
  rw [hdepth]
  rcases hopened.span_cases with hnew | htop
  · have hnot : span ∉ w.view task := fun hmem => by
      have hbound := hin.allocated span hmem
      omega
    exact ⟨fun _ => hnot, fun _ => hopened.depth_new hnew hin.allocated⟩
  · have hspan : span = t := hin.of_top htop
    subst hspan
    have hmem : span ∈ w.view task := List.mem_of_getLast? htop
    have hpos := hin.ledgerTop.depth_pos
    have htwo : (w'.ledger.span span).depth ≠ 1 := by
      rw [(hopened.reused_of_lt (hin.allocated span hmem)).1, Ledger.span_start, if_pos rfl]
      simp only [Ledger.Span.enter]
      omega
    exact ⟨fun hone => absurd hone htwo, fun hnot => absurd hmem hnot⟩

theorem nested_cases {t : Nat} (h : BlockRun env task answers call w w' span body)
    (hin : Inside task t w) :
    Own w span body ∧ (w.span t).cls ≠ .NoopSpan ∧
      Ledger.Nested (w.span t).context ((span, some t) :: body.created) (body.closed ++ [span])
        w.ledger (after env task answers span body).ledger ∨
    ¬ Own w span body ∧
      ((w.span t).cls = .NoopSpan → (body.world.ledger.span span).noop = true) ∧
      Ledger.Nested (w.span t).context body.created body.closed w.ledger
        (after env task answers span body).ledger := by
  have hnoopTop : (w.span t).cls = .NoopSpan ↔ (w.context (w.span t).context).noop = true := by
    have heq := hin.ledgerTop.noop_eq
    simp only [ledger_span, ledger_context, Span.toLedger, SpanContext.toLedger] at heq
    simp [← heq]
  have hbody := h.body.nested
  have hopened := h.opened
  have hself := h.body_span rfl (hin.top_opened hopened).lt
  have hcontext : (w'.span span).context = (w'.ledger.span span).context := rfl
  rw [h.after_ledger]
  rw [hcontext] at hbody
  unfold Own
  rw [hself]
  generalize w'.ledger = l at hbody hopened hself
  cases hopened with
  | rootNoop hempty => exact absurd hempty hin.ne_nil
  | rootSuppressed hempty => exact absurd hempty hin.ne_nil
  | root hempty => exact absurd hempty hin.ne_nil
  | noop top htop hnoop =>
      rw [hin.of_top htop] at hbody hnoop ⊢
      have hspan := w.ledger.span_createNoop_start (w.span t).context
      rw [ledger_spans_size] at hspan
      rw [hspan] at hbody ⊢
      have hblock := Ledger.Nested.noop_block hin.ledgerTop.context_lt hnoop hbody
      exact Or.inr ⟨fun hown => Bool.noConfusion hown.2, fun _ => rfl, hblock⟩
  | suppressed top htop hreal =>
      have hspan := (w.ledger.newContext true).span_createNoop_start w.contexts.size
      have hspan' : (((w.ledger.newContext true).createNoop w.contexts.size).start
          w.spans.size).span w.spans.size = ⟨true, w.contexts.size, 1, -1, -1⟩ := hspan
      rw [hspan'] at hbody ⊢
      have hblock := Ledger.Nested.suppressed_block hin.ledgerTop.context_lt hbody
      exact Or.inr ⟨fun hown => Bool.noConfusion hown.2, fun _ => rfl, hblock⟩
  | reused top htop hreal hreuse =>
      have heq := hin.of_top htop
      subst heq
      have hspan : (w.ledger.start span).span span = (w.ledger.span span).enter := by
        rw [Ledger.span_start, if_pos rfl]
      rw [hspan] at hbody ⊢
      have hblock := Ledger.Nested.reused_block hin.ledgerTop.lt hin.ledgerTop.depth_pos hbody
      have hlt := hin.ledgerTop.lt
      refine Or.inr ⟨fun hown => absurd hown.1 (Nat.not_le.mpr hlt), fun hnoop => ?_, hblock⟩
      rw [hnoopTop, hreal] at hnoop
      cases hnoop
  | created top htop hreal hdepth =>
      rw [hin.of_top htop] at hbody hreal hdepth ⊢
      have hspan := w.ledger.span_create_start (w.span t).context (w.span t).sid
      rw [ledger_spans_size] at hspan
      rw [hspan] at hbody ⊢
      have hrealTop : (w.ledger.span t).noop = false := hin.ledgerTop.noop_eq.trans hreal
      have hblock := Ledger.Nested.created_block hin.ledgerTop.lt hreal hin.ledgerTop.nspans_pos
        (hin.ledgerTop.sid_nonneg hrealTop) hbody
      refine Or.inl ⟨⟨le_refl _, rfl⟩, fun hnoop => ?_, hblock⟩
      rw [hnoopTop, hreal] at hnoop
      cases hnoop
  | detached top htop hreal hdepth =>
      rw [hin.of_top htop] at hdepth
      exact absurd hdepth hin.ledgerTop.depth_pos.ne'

end BlockRun

theorem BlockRun.unwound {env : Env} {task t : Nat} {answers : BlockAnswers} {call : Call}
    {w w' : World} {span : Nat} {body : Result}
    (h : BlockRun env task answers call w w' span body) (hin : Inside task t w) :
    Unwound t w (Result.around w (inside env answers span body) (after env task answers span body)
      span (some t) body) := by
  have hview := h.after_view (h.depth_iff hin)
  have hnoopAfter : ((after env task answers span body).span span).cls = .NoopSpan ↔
      (body.world.ledger.span span).noop = true := by
    have hledger : ((after env task answers span body).ledger.span span).noop =
        (body.world.ledger.span span).noop := by
      rw [h.after_ledger, Ledger.span_stop, if_pos rfl]
      rfl
    rw [← hledger]
    simp [Span.toLedger]
  rcases h.nested_cases hin with ⟨hown, hreal, hnested⟩ | ⟨hown, hnoop, hnested⟩
  · rw [h.around_of_own hown]
    refine ⟨h.after_varsOk, hview, h.after_carriers, hnested, fun b hb => ?_⟩
    rcases List.mem_append.mp hb with hb | hb
    · exact h.body.blocks b hb
    · rw [List.mem_singleton.mp hb]
      exact ⟨t, rfl, hview, hin.ledgerTop.noop_eq, hnested, fun hcls => absurd hcls hreal⟩
  · rw [h.around_of_not_own hown]
    refine ⟨h.after_varsOk, hview, h.after_carriers, hnested, fun b hb => ?_⟩
    rcases List.mem_append.mp hb with hb | hb
    · exact h.body.blocks b hb
    · rw [List.mem_singleton.mp hb]
      exact ⟨t, rfl, hview, hin.ledgerTop.noop_eq, hnested, fun hcls => hnoopAfter.mpr (hnoop hcls)⟩

theorem Prog.mem_carriers_block {call : Call} {answers : BlockAnswers} {body : Prog} {a : Nat} :
    a ∈ (Prog.block call answers body).carriers ↔ a ∈ call.carrier ∨ a ∈ body.carriers := by
  cases call with
  | newLocalSpan op => simp [Prog.carriers, Call.carrier]
  | newEntrySpan op carrier inherit => simp [Prog.carriers, Call.carrier]
  | newExitSpan op peer component inherit => simp [Prog.carriers, Call.carrier]

/-- With an open span on top, or none, a block with a readable carrier is entered. -/
theorem openBlock_ok (env : Env) {task : Nat} (answers : BlockAnswers) {call : Call} {w : World}
    (hok : w.VarsOk) (hopen : SpanContext.isFinished (w.view task).getLast? w = false)
    (hread : ∀ a ∈ call.carrier, (w.carriers.get a).Readable) :
    ∃ w' span, openBlock env task answers call w = (w', .ok span) := by
  have hquiet := quiet_getContext env hok task answers.sampled
  have hopen' : SpanContext.isFinished
      ((getContext env task answers.sampled w).1.view task).getLast?
      (getContext env task answers.sampled w).1 = false := by
    rw [hquiet.view_eq]
    simp only [SpanContext.isFinished, World.span, getContext_spans] at hopen ⊢
    exact hopen
  obtain ⟨span, hspan⟩ := Call.run_ok env task (getContext env task answers.sampled w).2
    answers.toAnswers hopen' (by rwa [hquiet.carriers_eq])
  unfold openBlock
  dsimp only
  generalize call.run env task (getContext env task answers.sampled w).2 answers.toAnswers
    (getContext env task answers.sampled w).1 = result at hspan
  obtain ⟨w', outcome⟩ := result
  cases hspan
  exact ⟨_, _, rfl⟩

theorem exec_inside (env : Env) (task : Nat) (p : Prog) :
    ∀ (spans : List Nat) (t : Nat) (w : World), spans.head? = some t → Inside task t w →
      (∀ a ∈ p.carriers, (w.carriers.get a).Readable) → Unwound t w (p.exec env task spans w) := by
  induction p with
  | skip => exact fun spans t w _ hin _ => .quiet _ (Quiet.refl hin.varsOk) rfl
  | wait seconds => exact fun spans t w _ hin _ => .quiet _ (Quiet.of_eq hin.varsOk rfl rfl rfl) rfl
  | raise raised => exact fun spans t w _ hin _ => .quiet _ (Quiet.refl hin.varsOk) rfl
  | edit distance change =>
      intro spans t w _ hin _
      simp only [Prog.exec]
      cases spans[distance]? with
      | none => exact .quiet _ (Quiet.refl hin.varsOk) rfl
      | some span =>
          have hquiet := quiet_edit env hin.varsOk span change
          have hledger := ledger_edit env w span change
          dsimp only
          split
          · next heq =>
            rw [heq] at hquiet hledger
            exact .quiet _ hquiet hledger
          · next heq =>
            rw [heq] at hquiet hledger
            exact .quiet _ hquiet hledger
  | seq first second ihFirst ihSecond =>
      intro spans t w hhead hin hread
      have hfirst := ihFirst spans t w hhead hin fun a ha => hread a (List.mem_append_left _ ha)
      have hsecond := ihSecond spans t _ hhead (hfirst.inside hin) fun a ha => by
        rw [hfirst.carriers_eq]
        exact hread a (List.mem_append_right _ ha)
      simp only [Prog.exec]
      split
      · exact hfirst
      · exact hfirst.andThen hsecond hin.ledgerTop.lt _
  | tryExcept body handler ihBody ihHandler =>
      intro spans t w hhead hin hread
      have hbody := ihBody spans t w hhead hin fun a ha => hread a (List.mem_append_left _ ha)
      have hhandler := ihHandler spans t _ hhead (hbody.inside hin) fun a ha => by
        rw [hbody.carriers_eq]
        exact hread a (List.mem_append_right _ ha)
      simp only [Prog.exec]
      split
      · exact hbody.andThen hhandler hin.ledgerTop.lt _
      · exact hbody
  | tryFinally body final ihBody ihFinal =>
      intro spans t w hhead hin hread
      have hbody := ihBody spans t w hhead hin fun a ha => hread a (List.mem_append_left _ ha)
      have hfinal := ihFinal spans t _ hhead (hbody.inside hin) fun a ha => by
        rw [hbody.carriers_eq]
        exact hread a (List.mem_append_right _ ha)
      exact hbody.andThen hfinal hin.ledgerTop.lt _
  | block call answers body ih =>
      intro spans t w hhead hin hread
      have hopen : SpanContext.isFinished (w.view task).getLast? w = false := by
        have hne : (w.span t).depth ≠ 0 := hin.ledgerTop.depth_pos.ne'
        simp [hin.top, SpanContext.isFinished, hne]
      obtain ⟨w', span, hentered⟩ := openBlock_ok env answers hin.varsOk hopen fun a ha =>
        hread a (Prog.mem_carriers_block.mpr (Or.inl ha))
      have hinside := hin.openBlock env hentered
      have hcarriers := (openBlock_view env hin.varsOk hin.allocated hentered).2.1
      have hbody := ih (span :: spans) span w' rfl hinside fun a ha => by
        rw [hcarriers]
        exact hread a (Prog.mem_carriers_block.mpr (Or.inr ha))
      have hrun : BlockRun env task answers call w w' span (body.exec env task (span :: spans) w') :=
        ⟨hin.varsOk, hin.allocated, hentered, hbody⟩
      simp only [Prog.exec, hentered, hhead]
      exact hrun.unwound hin

theorem toLedger_noop {span : Span} : span.toLedger.noop = true ↔ span.cls = .NoopSpan := by
  simp [Span.toLedger]

theorem toLedger_real {span : Span} : span.toLedger.noop = false ↔ span.cls ≠ .NoopSpan := by
  simp [Span.toLedger]

theorem Opened.top_of_empty {task : Nat} {call : Call} {w : World} {span : Nat} {l : Ledger}
    (hopened : Opened task call w span l) (hempty : w.view task = []) : l.Top span := by
  have hnone : ∀ top, ¬ (w.view task).getLast? = some top := by
    intro top htop
    rw [hempty] at htop
    cases htop
  have hnew := fun (l : Ledger) noop => l.context_newContext_size noop
  cases hopened with
  | rootNoop =>
      exact Ledger.Top.noop (l := w.ledger.newContext true) (Nat.lt_succ_self _)
        (congrArg Ledger.Context.noop (hnew w.ledger true))
        (congrArg Ledger.Context.nspans (hnew w.ledger true)).ge
  | rootSuppressed =>
      exact Ledger.Top.noop (l := (w.ledger.newContext false).newContext true) (Nat.lt_succ_self _)
        (congrArg Ledger.Context.noop (hnew (w.ledger.newContext false) true))
        (congrArg Ledger.Context.nspans (hnew (w.ledger.newContext false) true)).ge
  | root =>
      exact Ledger.Top.created (l := w.ledger.newContext false) _ (Nat.lt_succ_self _)
        (congrArg Ledger.Context.noop (hnew w.ledger false))
        (congrArg Ledger.Context.nspans (hnew w.ledger false)).ge
        (congrArg Ledger.Context.sid (hnew w.ledger false)).ge
  | noop top htop => exact absurd htop (hnone top)
  | suppressed top htop => exact absurd htop (hnone top)
  | reused _ htop => exact absurd htop (hnone _)
  | created top htop => exact absurd htop (hnone top)
  | detached top htop => exact absurd htop (hnone top)

theorem Inside.of_empty (env : Env) {task : Nat} {answers : BlockAnswers} {call : Call}
    {w w' : World} {span : Nat} (hok : w.VarsOk) (hempty : w.view task = [])
    (hopen : SkyWalking.openBlock env task answers call w = (w', .ok span)) :
    Inside task span w' := by
  have halloc : ∀ s ∈ w.view task, s < w.spans.size := by simp [hempty]
  obtain ⟨hok', -, hviews⟩ := openBlock_view env hok halloc hopen
  have hview : w'.view task = [span] := by
    rw [hviews, if_pos rfl, hempty]
    rfl
  have htop := (Opened.of_openBlock env hok hopen).top_of_empty hempty
  refine ⟨hok', by rw [hview]; rfl, ?_, htop⟩
  intro s hs
  rw [hview, List.mem_singleton] at hs
  exact hs ▸ htop.lt

theorem BlockRecord.NoTrace.of_nested {b : BlockRecord} {c : Nat} {l : Ledger}
    (hnested : Ledger.Nested c b.created b.closed l b.after.ledger)
    (hnoop : (l.context c).noop = true) (hspans : l.spans.size = b.before.spans.size)
    (hcontexts : ∀ c' < b.before.contexts.size, l.context c' = b.before.ledger.context c')
    (hsize : b.before.contexts.size ≤ l.contexts.size) (harchived : l.archived = b.before.archived)
    (hspan : (b.after.span b.span).cls = .NoopSpan) : b.NoTrace := by
  have hcreated := hnested.noop_nil hnoop
  have hclosed := hnested.closed_nil hnoop
  have hcontext : ∀ c', c' < b.before.contexts.size →
      (b.after.ledger.context c').spans = (b.before.ledger.context c').spans := by
    intro c' hc'
    by_cases heq : c' = c
    · rw [heq, hnested.context_self, hclosed, ← hcontexts c (heq ▸ hc')]
      simp
    · rw [hnested.context_eq c' (hc'.trans_le hsize) heq, hcontexts c' hc']
  refine ⟨hspan, hcreated, hclosed, ?_, hcontext, hnested.archived_eq.trans harchived⟩
  intro s hge hlt
  rw [← toLedger_noop]
  by_contra hreal
  have hmem := hnested.complete s (hspans ▸ hge) hlt (by simpa using hreal)
  rw [hcreated] at hmem
  simp at hmem

theorem BlockRecord.ArchivedOnce.of_rooted {b : BlockRecord}
    (h : Ledger.Rooted b.span b.created b.closed b.before.ledger b.after.ledger)
    (hinside : b.inside.archived = b.before.archived) : b.ArchivedOnce := by
  have hnodup : b.closed.Nodup := h.closed_perm.nodup_iff.mpr (h.sorted.imp fun hlt => hlt.ne)
  refine ⟨hinside, h.archived_eq, h.spans_eq, hnodup, h.root_last, ?_, h.closed_perm, h.sorted,
    h.sids, ?_, ?_⟩
  · intro s
    rw [h.closed_perm.mem_iff, ← toLedger_real]
    constructor
    · intro hs
      obtain ⟨p, hp, rfl⟩ := List.mem_map.mp hs
      exact ⟨(h.created_lt p hp).1, (h.created_lt p hp).2, (h.created_real p hp).1⟩
    · rintro ⟨hge, hlt, hreal⟩
      exact h.complete s hge hlt hreal
  · intro p hp
    rcases h.pids p hp with ⟨heq, hpid⟩ | ⟨hne, e, _, _, hpid⟩
    · exact iff_of_true hpid (congrArg Prod.fst heq)
    · exact iff_of_false hpid hne
  · intro p hp hne
    rcases h.pids p hp with ⟨heq, _⟩ | ⟨_, e, hp2, hpid, _⟩
    · exact absurd (congrArg Prod.fst heq) hne
    · exact ⟨e, hp2, hpid⟩

/-- The ledger after an outermost block: a segment of its own, or a noop context that is dropped. -/
theorem BlockRun.root_cases {env : Env} {task : Nat} {answers : BlockAnswers} {call : Call}
    {w w' : World} {span : Nat} {body : Result}
    (h : BlockRun env task answers call w w' span body) (hempty : w.view task = []) :
    Own w span body ∧
      Ledger.Rooted span ((span, none) :: body.created) (body.closed ++ [span]) w.ledger
        (after env task answers span body).ledger ∨
    ¬ Own w span body ∧ (body.world.ledger.span span).noop = true ∧
      ∃ c l, Ledger.Nested c body.created body.closed l (after env task answers span body).ledger ∧
        (l.context c).noop = true ∧ l.spans.size = w.spans.size ∧
        (∀ c' < w.contexts.size, l.context c' = w.ledger.context c') ∧
        w.contexts.size ≤ l.contexts.size ∧ l.archived = w.archived := by
  have hnone : ∀ top, ¬ (w.view task).getLast? = some top := by
    intro top htop
    rw [hempty] at htop
    cases htop
  have hbody := h.body.nested
  have hopened := h.opened
  have hself := h.body_span rfl (hopened.top_of_empty hempty).lt
  have hcontext : (w'.span span).context = (w'.ledger.span span).context := rfl
  rw [h.after_ledger]
  rw [hcontext] at hbody
  unfold Own
  rw [hself]
  generalize w'.ledger = l at hbody hopened hself
  cases hopened with
  | rootNoop =>
      have hspan : (((w.ledger.newContext true).createNoop w.contexts.size).start
          w.spans.size).span w.spans.size = ⟨true, w.contexts.size, 1, -1, -1⟩ :=
        (w.ledger.newContext true).span_createNoop_start w.contexts.size
      rw [hspan] at hbody ⊢
      have hnoop : ((w.ledger.newContext true).context w.contexts.size).noop = true :=
        congrArg Ledger.Context.noop (w.ledger.context_newContext_size true)
      refine Or.inr ⟨fun hown => Bool.noConfusion hown.2, rfl, w.contexts.size,
        w.ledger.newContext true, ?_, hnoop, rfl, ?_, Nat.le_succ _, rfl⟩
      · exact Ledger.Nested.noop_block (l := w.ledger.newContext true) (Nat.lt_succ_self _) hnoop
          hbody
      · intro c' hc'
        exact w.ledger.context_newContext_of_lt true hc'
  | rootSuppressed =>
      have hspan : ((((w.ledger.newContext false).newContext true).createNoop
          (w.contexts.size + 1)).start w.spans.size).span w.spans.size =
            ⟨true, w.contexts.size + 1, 1, -1, -1⟩ :=
        ((w.ledger.newContext false).newContext true).span_createNoop_start (w.contexts.size + 1)
      rw [hspan] at hbody ⊢
      have hnoop : (((w.ledger.newContext false).newContext true).context
          (w.contexts.size + 1)).noop = true :=
        congrArg Ledger.Context.noop ((w.ledger.newContext false).context_newContext_size true)
      refine Or.inr ⟨fun hown => Bool.noConfusion hown.2, rfl, w.contexts.size + 1,
        (w.ledger.newContext false).newContext true, ?_, hnoop, rfl, ?_,
        (Nat.le_succ _).trans (Nat.le_succ _), rfl⟩
      · exact Ledger.Nested.noop_block (l := (w.ledger.newContext false).newContext true)
          (Nat.lt_succ_self _) hnoop hbody
      · intro c' hc'
        rw [Ledger.context_newContext_of_lt _ true (Nat.lt_succ_of_lt hc'),
          w.ledger.context_newContext_of_lt false hc']
  | root =>
      have hspan : (((w.ledger.newContext false).create w.contexts.size (-1)).start
          w.spans.size).span w.spans.size = ⟨false, w.contexts.size, 1, _, -1⟩ :=
        (w.ledger.newContext false).span_create_start w.contexts.size (-1)
      rw [hspan] at hbody ⊢
      exact Or.inl ⟨⟨le_refl _, rfl⟩, Ledger.Rooted.of_body (l := w.ledger) hbody⟩
  | noop top htop => exact absurd htop (hnone top)
  | suppressed top htop => exact absurd htop (hnone top)
  | reused _ htop => exact absurd htop (hnone _)
  | created top htop => exact absurd htop (hnone top)
  | detached top htop => exact absurd htop (hnone top)

/-- An outermost block. -/
def BlockRecord.Outer (b : BlockRecord) : Prop :=
  b.enclosing = none ∧ (∀ t, b.after.view t = b.before.view t) ∧ (b.ArchivedOnce ∨ b.NoTrace)

/-- An execution outside of all blocks. -/
structure Balanced (w : World) (r : Result) : Prop where
  varsOk : r.world.VarsOk
  view_eq : ∀ task, r.world.view task = w.view task
  carriers_eq : r.world.carriers = w.carriers
  blocks : ∀ b ∈ r.blocks, b.Inner ∨ b.Outer

theorem Balanced.quiet {w w' : World} (raised : Option Raised) (hquiet : Quiet w w') :
    Balanced w (Result.quiet w' raised) :=
  ⟨hquiet.varsOk, hquiet.view_eq, hquiet.carriers_eq, fun _ hb => by simp [Result.quiet] at hb⟩

theorem Balanced.andThen {w : World} {r r' : Result} (h : Balanced w r) (h' : Balanced r.world r')
    (raised : Option Raised) : Balanced w (r.andThen r' raised) where
  varsOk := h'.varsOk
  view_eq task := (h'.view_eq task).trans (h.view_eq task)
  carriers_eq := h'.carriers_eq.trans h.carriers_eq
  blocks b hb := by
    rcases List.mem_append.mp hb with hb | hb
    · exact h.blocks b hb
    · exact h'.blocks b hb

theorem BlockRun.balanced {env : Env} {task : Nat} {answers : BlockAnswers} {call : Call}
    {w w' : World} {span : Nat} {body : Result}
    (h : BlockRun env task answers call w w' span body) (hempty : w.view task = []) :
    Balanced w (Result.around w (inside env answers span body)
      (after env task answers span body) span none body) := by
  have hopened := h.opened
  have hself := h.body_span rfl (hopened.top_of_empty hempty).lt
  have hnew : span = w.spans.size := by
    rcases hopened.span_cases with hnew | htop
    · exact hnew
    · rw [hempty] at htop
      cases htop
  have hview : ∀ t, (after env task answers span body).view t = w.view t := by
    refine h.after_view (iff_of_true ?_ (by simp [hempty]))
    have hone := hopened.depth_new hnew h.allocated
    rw [← hself] at hone
    exact hone
  rcases h.root_cases hempty with ⟨hown, hrooted⟩ | ⟨hown, hnoop, c, l, hnested, hrest⟩
  · rw [h.around_of_own hown]
    refine ⟨h.after_varsOk, hview, h.after_carriers, fun b hb => ?_⟩
    rcases List.mem_append.mp hb with hb | hb
    · exact Or.inl (h.body.blocks b hb)
    · rw [List.mem_singleton.mp hb]
      refine Or.inr ⟨rfl, hview, Or.inl (.of_rooted hrooted ?_)⟩
      calc
        (inside env answers span body).archived = body.world.archived :=
          congrArg Ledger.archived h.inside_ledger
        _ = w'.archived := h.body.nested.archived_eq
        _ = w.archived := hopened.archived_eq
  · rw [h.around_of_not_own hown]
    refine ⟨h.after_varsOk, hview, h.after_carriers, fun b hb => ?_⟩
    rcases List.mem_append.mp hb with hb | hb
    · exact Or.inl (h.body.blocks b hb)
    · rw [List.mem_singleton.mp hb]
      obtain ⟨hc, hspans, hcontexts, hsize, harchived⟩ := hrest
      refine Or.inr ⟨rfl, hview, Or.inr (.of_nested hnested hc hspans hcontexts hsize harchived ?_)⟩
      rw [← toLedger_noop]
      have hafter : ((after env task answers span body).ledger.span span).noop = true := by
        rw [h.after_ledger, Ledger.span_stop, if_pos rfl]
        exact hnoop
      exact hafter

theorem exec_outside (env : Env) (task : Nat) (p : Prog) :
    ∀ w : World, w.VarsOk → w.view task = [] →
      (∀ a ∈ p.carriers, (w.carriers.get a).Readable) → Balanced w (p.exec env task [] w) := by
  induction p with
  | skip => exact fun w hok _ _ => .quiet _ (Quiet.refl hok)
  | wait seconds => exact fun w hok _ _ => .quiet _ (Quiet.of_eq hok rfl rfl rfl)
  | raise raised => exact fun w hok _ _ => .quiet _ (Quiet.refl hok)
  | edit distance change => exact fun w hok _ _ => .quiet _ (Quiet.refl hok)
  | seq first second ihFirst ihSecond =>
      intro w hok hempty hread
      have hfirst := ihFirst w hok hempty fun a ha => hread a (List.mem_append_left _ ha)
      have hsecond := ihSecond _ hfirst.varsOk ((hfirst.view_eq task).trans hempty) fun a ha => by
        rw [hfirst.carriers_eq]
        exact hread a (List.mem_append_right _ ha)
      simp only [Prog.exec]
      split
      · exact hfirst
      · exact hfirst.andThen hsecond _
  | tryExcept body handler ihBody ihHandler =>
      intro w hok hempty hread
      have hbody := ihBody w hok hempty fun a ha => hread a (List.mem_append_left _ ha)
      have hhandler := ihHandler _ hbody.varsOk ((hbody.view_eq task).trans hempty) fun a ha => by
        rw [hbody.carriers_eq]
        exact hread a (List.mem_append_right _ ha)
      simp only [Prog.exec]
      split
      · exact hbody.andThen hhandler _
      · exact hbody
  | tryFinally body final ihBody ihFinal =>
      intro w hok hempty hread
      have hbody := ihBody w hok hempty fun a ha => hread a (List.mem_append_left _ ha)
      have hfinal := ihFinal _ hbody.varsOk ((hbody.view_eq task).trans hempty) fun a ha => by
        rw [hbody.carriers_eq]
        exact hread a (List.mem_append_right _ ha)
      exact hbody.andThen hfinal _
  | block call answers body =>
      intro w hok hempty hread
      have hopen : SpanContext.isFinished (w.view task).getLast? w = false := by
        rw [hempty]
        rfl
      obtain ⟨w', span, hentered⟩ := openBlock_ok env answers hok hopen fun a ha =>
        hread a (Prog.mem_carriers_block.mpr (Or.inl ha))
      have halloc : ∀ s ∈ w.view task, s < w.spans.size := by simp [hempty]
      have hcarriers := (openBlock_view env hok halloc hentered).2.1
      have hbody := exec_inside env task body [span] span w' rfl (.of_empty env hok hempty hentered)
        fun a ha => by
          rw [hcarriers]
          exact hread a (Prog.mem_carriers_block.mpr (Or.inr ha))
      have hrun : BlockRun env task answers call w w' span (body.exec env task [span] w') :=
        ⟨hok, halloc, hentered, hbody⟩
      simp only [Prog.exec, hentered, List.head?_nil]
      exact hrun.balanced hempty

/-- A block inside a noop block is noop and leaves no trace. -/
theorem BlockRecord.Inner.noTrace {b : BlockRecord} (h : b.Inner) {e : Nat}
    (henclosing : b.enclosing = some e) (hnoop : (b.before.span e).cls = .NoopSpan) : b.NoTrace := by
  obtain ⟨e', he', -, hcontext, hnested, hspan⟩ := h
  rw [henclosing] at he'
  cases he'
  rw [toLedger_noop.mpr hnoop] at hcontext
  exact .of_nested hnested hcontext.symm rfl (fun _ _ => rfl) (le_refl _) rfl (hspan hnoop)

/-- **Programs of nested blocks.** Every block leaves the stacks as it found them; an outermost block
archives one segment, when it exits, with exactly what was created in it, or leaves no trace at all;
and so does every block under a noop span. -/
theorem exec_archives_once (env : Env) (task : Nat) (p : Prog) (w : World) (hok : w.VarsOk)
    (hempty : w.view task = []) (hread : ∀ a ∈ p.carriers, (w.carriers.get a).Readable) :
    ∀ b ∈ (p.exec env task [] w).blocks,
      (∀ t, b.after.view t = b.before.view t) ∧
      (b.enclosing = none → (b.after.span b.span).cls ≠ .NoopSpan → b.ArchivedOnce) ∧
      (b.enclosing = none → (b.after.span b.span).cls = .NoopSpan → b.NoTrace) ∧
      (∀ e, b.enclosing = some e → (b.before.span e).cls = .NoopSpan → b.NoTrace) := by
  intro b hb
  rcases (exec_outside env task p w hok hempty hread).blocks b hb with hinner | houter
  · have hnone : b.enclosing ≠ none := by
      obtain ⟨e, he, _⟩ := hinner
      simp [he]
    refine ⟨?_, fun h => absurd h hnone, fun h => absurd h hnone, fun e he hnoop =>
      hinner.noTrace he hnoop⟩
    obtain ⟨e, _, hview, _⟩ := hinner
    exact hview
  · obtain ⟨hnone, hview, hcases⟩ := houter
    refine ⟨hview, fun _ hreal => ?_, fun _ hnoop => ?_, fun e he => ?_⟩
    · rcases hcases with honce | hnothing
      · exact honce
      · exact absurd hnothing.noop hreal
    · rcases hcases with honce | hnothing
      · exact absurd hnoop ((honce.mem_closed b.span).mp (List.mem_of_getLast? honce.root_last)).2.2
      · exact hnothing
    · rw [hnone] at he
      cases he

theorem exec_archives_once_sample :
    (Prog.sample.exec .sample 0 [] .init).blocks.map BlockRecord.closed = [[1], [1, 0]] ∧
    ∀ b ∈ (Prog.sample.exec .sample 0 [] .init).blocks,
      (∀ t, b.after.view t = b.before.view t) ∧
      (b.enclosing = none → (b.after.span b.span).cls ≠ .NoopSpan → b.ArchivedOnce) ∧
      (b.enclosing = none → (b.after.span b.span).cls = .NoopSpan → b.NoTrace) ∧
      (∀ e, b.enclosing = some e → (b.before.span e).cls = .NoopSpan → b.NoTrace) :=
  ⟨by decide +kernel, exec_archives_once .sample 0 .sample .init varsOk_init rfl
    (by simp [Prog.sample, Prog.carriers])⟩

end SkyWalking
