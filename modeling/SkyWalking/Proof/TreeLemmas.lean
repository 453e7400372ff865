import SkyWalking.Proof.SamplingLemmas
import SkyWalking.Trace.Tree

/-!
# Archived segments are trees

A span is on a stack only after it was entered, and what was entered is open or recorded. So the parent of
a recorded span is recorded as soon as no span of the segment is open.
-/

namespace SkyWalking

open World

namespace Ledger

variable {l l' l'' : Ledger}

theorem Extends.refl (l : Ledger) : l.Extends l where
  size_le := le_refl _
  same _ _ := ⟨rfl, rfl, rfl, rfl⟩
  begun _ _ _ h := h

theorem Extends.trans (h : l.Extends l') (h' : l'.Extends l'') : l.Extends l'' where
  size_le := h.size_le.trans h'.size_le
  same s hs := by
    obtain ⟨hnoop, hcontext, hsid, hpid⟩ := h.same s hs
    obtain ⟨hnoop', hcontext', hsid', hpid'⟩ := h'.same s (hs.trans_le h.size_le)
    exact ⟨hnoop'.trans hnoop, hcontext'.trans hcontext, hsid'.trans hsid, hpid'.trans hpid⟩
  begun s hs hreal hbegun := by
    have hreal' : (l'.span s).noop = false := (h.same s hs).1.trans hreal
    exact h'.begun s (hs.trans_le h.size_le) hreal' (h.begun s hs hreal hbegun)

/-- A step that leaves the spans and the records that there are as they are. -/
theorem Extends.of_kept (hsize : l.spans.size ≤ l'.spans.size)
    (hspan : ∀ s < l.spans.size, l'.span s = l.span s)
    (hspans : ∀ s < l.spans.size, (l'.context (l.span s).context).spans =
      (l.context (l.span s).context).spans) : l.Extends l' where
  size_le := hsize
  same s hs := by
    rw [hspan s hs]
    exact ⟨rfl, rfl, rfl, rfl⟩
  begun s hs _ hbegun := by
    rw [Begun, hspan s hs, hspans s hs]
    exact hbegun

theorem extends_newContext (hinv : l.Inv) (noop : Bool) : l.Extends (l.newContext noop) := by
  refine .of_kept (le_refl _) (fun _ _ => rfl) fun s hs => ?_
  rw [context_newContext_of_lt l noop (hinv.context_lt s hs)]

theorem extends_create (context : Nat) (pid : Int) : l.Extends (l.create context pid) := by
  refine .of_kept (Nat.le_succ _) (fun s hs => l.span_create_of_lt context pid hs) fun s _ => ?_
  rw [context_create]
  split <;> rfl

theorem extends_createNoop (context : Nat) : l.Extends (l.createNoop context) :=
  .of_kept (Nat.le_succ _) (fun _ hs => l.span_createNoop_of_lt context hs) fun _ _ => rfl

theorem extends_start (span : Nat) : l.Extends (l.start span) where
  size_le := (l.spans_size_start span).ge
  same s _ := by
    rw [span_start]
    split <;> exact ⟨rfl, rfl, rfl, rfl⟩
  begun s _ _ hbegun := by
    rw [Begun, span_start]
    obtain hdepth | hrecorded := hbegun
    · left
      split
      · simp only [Span.enter]
        omega
      · exact hdepth
    · right
      rw [spans_context_start]
      split <;> exact hrecorded

theorem extends_stop (hinv : l.Inv) (span : Nat) : l.Extends (l.stop span) where
  size_le := (l.spans_size_stop span).ge
  same s _ := by
    rw [span_stop]
    split <;> exact ⟨rfl, rfl, rfl, rfl⟩
  begun s hs hreal hbegun := by
    have hcontext : ((l.stop span).span s).context = (l.span s).context := by
      rw [span_stop]
      split <;> rfl
    have hkept : s ∈ (l.context (l.span s).context).spans →
        s ∈ ((l.stop span).context (l.span s).context).spans := by
      intro hrecorded
      rw [context_stop]
      split
      · rw [Context.closed]
        dsimp only
        split
        · exact hrecorded
        · exact List.mem_append_left _ hrecorded
      · exact hrecorded
    rw [Begun, hcontext]
    obtain hdepth | hrecorded := hbegun
    · by_cases hlast : s = span ∧ (l.span s).depth = 1
      · obtain ⟨rfl, hone⟩ := hlast
        right
        have hnoop : (l.context (l.span s).context).noop = false :=
          (hinv.noop_eq s hs).symm.trans hreal
        rw [context_stop, if_pos ⟨hone, rfl⟩, Context.closed]
        simp [hnoop]
      · left
        rw [span_stop]
        split
        · next heq =>
          have hmore : (l.span s).depth ≠ 1 := fun hone => hlast ⟨heq, hone⟩
          simp only [Span.leave]
          omega
        · exact hdepth
    · exact .inr (hkept hrecorded)

theorem extends_apply (hinv : l.Inv) (action : Action) : l.Extends (l.apply action) := by
  cases action with
  | newContext noop => exact extends_newContext hinv noop
  | create context pid => exact extends_create context pid
  | createNoop context => exact extends_createNoop context
  | start span => exact extends_start span
  | stop span => exact extends_stop hinv span

/-- What is asked of spans that are there already is asked of them once. -/
theorem Parented.extend (h : l.Parented) (hextends : l.Extends l')
    (hnew : ∀ s < l'.spans.size, l.spans.size ≤ s → (l'.span s).noop = false →
      ((l'.span s).pid = -1 ↔ (l'.span s).sid = 0) ∧
        ((l'.span s).pid ≠ -1 → ∃ p < l.spans.size, (l.span p).noop = false ∧
          (l.span p).context = (l'.span s).context ∧ (l.span p).sid = (l'.span s).pid ∧
          (l'.span s).pid < (l'.span s).sid ∧ l.Begun p)) : l'.Parented where
  root s hs hreal := by
    by_cases hold : s < l.spans.size
    · obtain ⟨hnoop, -, hsid, hpid⟩ := hextends.same s hold
      rw [hpid, hsid]
      exact h.root s hold (hnoop.symm.trans hreal)
    · exact (hnew s hs (not_lt.mp hold) hreal).1
  parent s hs hreal hpid := by
    have hparent : ∃ p < l.spans.size, (l.span p).noop = false ∧
        (l.span p).context = (l'.span s).context ∧ (l.span p).sid = (l'.span s).pid ∧
        (l'.span s).pid < (l'.span s).sid ∧ l.Begun p := by
      by_cases hold : s < l.spans.size
      · obtain ⟨hnoop, hcontext', hsid', hpid'⟩ := hextends.same s hold
        rw [hcontext', hsid', hpid']
        exact h.parent s hold (hnoop.symm.trans hreal) (hpid' ▸ hpid)
      · exact (hnew s hs (not_lt.mp hold) hreal).2 hpid
    obtain ⟨p, hp, hrealp, hcontext, hsid, hlt, hbegun⟩ := hparent
    obtain ⟨hnoop', hcontext', hsid', -⟩ := hextends.same p hp
    exact ⟨p, hp.trans_le hextends.size_le, hnoop'.trans hrealp, hcontext'.trans hcontext,
      hsid'.trans hsid, hlt, hextends.begun p hp hrealp hbegun⟩

theorem Parented.of_size (h : l.Parented) (hextends : l.Extends l')
    (hsize : l'.spans.size = l.spans.size) : l'.Parented :=
  h.extend hextends fun _ hs hge => absurd (hsize ▸ hs) (not_lt.mpr hge)

theorem Parented.createNoop (h : l.Parented) (context : Nat) : (l.createNoop context).Parented := by
  refine h.extend (extends_createNoop context) fun s hs hge hreal => ?_
  obtain rfl : s = l.spans.size := Nat.le_antisymm (Nat.lt_succ_iff.mp hs) hge
  rw [span_createNoop_size] at hreal
  cases hreal

theorem Parented.create (h : l.Parented) (hinv : l.Inv) {context : Nat} {pid : Int}
    (hfits : l.Fits context pid) : (l.create context pid).Parented := by
  refine h.extend (extends_create context pid) fun s hs hge _ => ?_
  obtain rfl : s = l.spans.size := Nat.le_antisymm (Nat.lt_succ_iff.mp hs) hge
  rw [span_create_size]
  dsimp only
  obtain ⟨rfl, hfirst⟩ | ⟨p, hp, hreal, rfl, rfl, hbegun⟩ := hfits
  · refine ⟨by simp [hfirst], fun hne => absurd rfl hne⟩
  · have hnonneg := hinv.sid_nonneg p hp hreal
    have hle := hinv.sid_le p hp hreal
    refine ⟨⟨by omega, by omega⟩, fun _ => ⟨p, hp, hreal, rfl, rfl, by omega, hbegun⟩⟩

/-- A context is archived by the step that records a span in it, and no step takes a span out. -/
theorem Filled.apply (h : l.Filled) (hsealed : l.Sealed) (action : Action) : (l.apply action).Filled := by
  intro c hc
  cases action with
  | newContext noop =>
      change ((l.newContext noop).context c).spans ≠ []
      rw [context_newContext_of_lt l noop (hsealed.archived_lt c hc)]
      exact h c hc
  | create context pid =>
      change ((l.create context pid).context c).spans ≠ []
      rw [context_create]
      split <;> exact h c hc
  | createNoop context => exact h c hc
  | start span =>
      rw [Ledger.apply, archived_start] at hc
      rw [Ledger.apply, spans_context_start]
      exact h c hc
  | stop span =>
      rw [Ledger.apply, archived_stop] at hc
      rw [Ledger.apply, context_stop]
      split
      · next hlast =>
        rw [Context.closed]
        dsimp only
        split
        · next hnoop =>
          split at hc
          · next hreal =>
            rw [hlast.2, hreal.2.1] at hnoop
            cases hnoop
          · exact h c hc
        · exact List.append_ne_nil_of_right_ne_nil _ (List.cons_ne_nil _ _)
      · next hnot =>
        split at hc
        · next hreal =>
          obtain hc | hc := List.mem_append.mp hc
          · exact h c hc
          · exact absurd ⟨hreal.1, List.mem_singleton.mp hc⟩ hnot
        · exact h c hc

end Ledger

section Calls

variable {env : Env} {w w' : World} {action : ApiAction}

/-- Entering spans that were not closed is entering spans that were not closed in the ledger. -/
theorem ApiAction.ledgerRun_fresh (hinv : w.ledger.Inv) (hsealed : w.ledger.Sealed) (env : Env)
    (henabled : action.Enabled w) (hfresh : StartsFresh w action) :
    LedgerRun Ledger.Fresh w.ledger (action.run env w).ledger := by
  refine action.ledgerRun onlyStarts_fresh env henabled ?_
  rintro task span rfl
  by_cases hnoop : (w.span span).cls = .NoopSpan
  · refine .of_noop hsealed ?_
    rw [← hinv.noop_eq span henabled]
    exact toLedger_noop.mpr hnoop
  · exact hfresh hnoop

/-- What every bookkeeping step keeps is kept by every call. -/
theorem ApiStep.keepsLedger {I : Ledger → Prop}
    (hI : ∀ l label, l.Inv → I l → l.Enabled label → I (l.apply label)) (hinv : w.ledger.Inv)
    (h : I w.ledger) (hstep : ApiStep env w action w') : I w'.ledger := by
  obtain ⟨henabled, rfl⟩ := hstep
  obtain ⟨actions, hrun⟩ := action.ledgerRun onlyStarts_true env henabled fun _ _ _ => trivial
  have hboth := hrun.invariant (I := fun l => l.Inv ∧ I l) ?_ ⟨hinv, h⟩
  · exact hboth.2
  · rintro l label l' ⟨hinv', hI'⟩ ⟨_, henabled', rfl⟩
    exact ⟨hinv'.apply henabled', hI l label hinv' hI' henabled'⟩

theorem ApiStep.extends (hinv : w.ledger.Inv) (hstep : ApiStep env w action w') :
    w.ledger.Extends w'.ledger :=
  hstep.keepsLedger (fun _ label hinv' hextends _ => hextends.trans (Ledger.extends_apply hinv' label)) hinv
    (.refl _)

/-- On a stack a span comes by being entered, or by a copy of the stack. -/
theorem ApiAction.mem_view (hok : w.VarsOk) {t s : Nat} (hs : s ∈ (action.run env w).view t) :
    (∃ t', s ∈ w.view t') ∨ ∃ task, action = .start task s ∧ (w.span s).depth = 0 := by
  by_cases hactor : action.actor = some t
  · cases action with
    | spawn creator child =>
        rw [ApiAction.run, view_spawn] at hs
        split at hs
        · exact .inl ⟨creator, hs⟩
        · exact .inl ⟨t, hs⟩
    | thread child =>
        obtain rfl : child = t := Option.some.inj hactor
        have hempty : (ApiAction.run env w (.thread child)).view child = [] := by
          simp [ApiAction.run, World.view]
        rw [hempty] at hs
        cases hs
    | start task span =>
        rw [ApiAction.run, view_start hok] at hs
        split at hs
        · next hfirst =>
          rw [pushed] at hs
          split at hs
          · exact .inl ⟨task, hs⟩
          · obtain hs | hs := List.mem_append.mp hs
            · exact .inl ⟨task, hs⟩
            · obtain rfl := List.mem_singleton.mp hs
              exact .inr ⟨task, rfl, hfirst.2⟩
        · exact .inl ⟨t, hs⟩
    | stop task span queueFull =>
        rw [ApiAction.run, view_stop hok] at hs
        split at hs
        · exact .inl ⟨task, List.mem_of_mem_erase hs⟩
        · exact .inl ⟨t, hs⟩
    | _ => cases hactor
  · rw [ApiAction.view_of_ne_actor hok hactor] at hs
    exact .inl ⟨t, hs⟩

/-- What is on a stack was entered. -/
structure World.Stacked (w : World) : Prop where
  varsOk : w.VarsOk
  inv : w.ledger.Inv
  view_lt : ∀ t, ∀ s ∈ w.view t, s < w.spans.size
  begun : ∀ t, ∀ s ∈ w.view t, (w.ledger.span s).noop = false → w.ledger.Begun s

theorem World.Stacked.step (h : w.Stacked) (hok : WorldOk env w) (hstep : ApiStep env w action w') :
    w'.Stacked := by
  have hextends := hstep.extends h.inv
  have hinv := hstep.inv h.inv
  have hkeeps : Keeps env w w' := hstep.2 ▸ keeps_action hstep.1
  obtain ⟨hok', -⟩ := hkeeps hok
  refine ⟨hok'.vars_lt, hinv, hok'.view_lt, fun t s hs hreal => ?_⟩
  rw [hstep.2] at hs
  obtain ⟨t', hs'⟩ | ⟨task, rfl, hdepth⟩ := action.mem_view h.varsOk hs
  · have hlt := h.view_lt t' s hs'
    have hreal' : (w.ledger.span s).noop = false := (hextends.same s hlt).1.symm.trans hreal
    exact hextends.begun s hlt hreal' (h.begun t' s hs' hreal')
  · have hentered : 0 < ((w.ledger.start s).span s).depth := by
      rw [Ledger.span_start, if_pos rfl]
      have hzero : (w.ledger.span s).depth = 0 := hdepth
      simp only [Ledger.Span.enter]
      omega
    rw [hstep.2, ApiAction.run, ledger_start]
    exact .inl hentered

/-- A span that is asked for in the current context gets a parent in it, or it is the first one. -/
theorem World.Stacked.parented (h : w.Stacked) (hparented : w.ledger.Parented)
    {task self : Nat} {answers : Answers} {call : Call} (hself : self < w.contexts.size)
    (hcurrent : w.IsCurrent self (w.view task).getLast?) :
    (call.run env task self answers w).1.ledger.Parented := by
  have hnew : ∀ noop, (w.ledger.newContext noop).Parented := fun noop =>
    hparented.of_size (Ledger.extends_newContext h.inv noop) rfl
  have heffect := call.run_effect env task self answers w
  generalize (call.run env task self answers w).1 = w' at heffect ⊢
  generalize (call.run env task self answers w).2 = outcome at heffect
  cases heffect with
  | noop _ hledger =>
      rw [hledger]
      exact hparented.createNoop self
  | suppressed _ hledger =>
      rw [hledger]
      exact (hnew true).createNoop _
  | failed _ hledger => exact hledger ▸ hparented
  | reused _ _ _ _ hledger => exact hledger ▸ hparented
  | created hreal hopen hledger _ =>
      rw [hledger]
      refine hparented.create h.inv ?_
      cases htop : (w.view task).getLast? with
      | none =>
          rw [htop] at hcurrent
          obtain hnoop | hfirst := hcurrent
          · rw [hreal] at hnoop
            cases hnoop
          · exact .inl ⟨rfl, hfirst⟩
      | some top =>
          rw [htop] at hcurrent
          obtain rfl : self = (w.span top).context := hcurrent
          have hmem := List.mem_of_getLast? htop
          have hlt := h.view_lt task top hmem
          have hnoop : (w.ledger.span top).noop = false := (h.inv.noop_eq top hlt).trans hreal
          exact .inr ⟨top, hlt, hnoop, rfl, rfl, h.begun task top hmem hnoop⟩
  | detached _ _ _ _ hledger _ =>
      rw [hledger]
      refine (hnew false).create (h.inv.newContext false) (.inl ⟨rfl, ?_⟩)
      exact congrArg Ledger.Context.sid (w.ledger.context_newContext_size false)

/-- Only asking for a span creates one, and at most one. -/
theorem ApiAction.spans_size_le (env : Env) (w : World) (action : ApiAction) :
    (action.run env w).spans.size ≤ w.spans.size + 1 ∧
      ((∀ task self answers call, action ≠ .newSpan task self answers call) →
        (action.run env w).spans.size = w.spans.size) := by
  have hsame : ∀ {l}, (action.run env w).ledger = l → l.spans.size = w.spans.size →
      (action.run env w).spans.size ≤ w.spans.size + 1 ∧
        ((∀ task self answers call, action ≠ .newSpan task self answers call) →
          (action.run env w).spans.size = w.spans.size) := by
    intro l hledger hsize
    have heq : (action.run env w).spans.size = w.spans.size :=
      (congrArg (fun l => l.spans.size) hledger).trans hsize
    exact ⟨heq.le.trans (Nat.le_succ _), fun _ => heq⟩
  cases action with
  | newSpan task self answers call =>
      refine ⟨?_, fun hnot => absurd rfl (hnot task self answers call)⟩
      change (call.run env task self answers w).1.ledger.spans.size ≤ w.ledger.spans.size + 1
      have heffect := call.run_effect env task self answers w
      generalize (call.run env task self answers w).1 = w' at heffect ⊢
      generalize (call.run env task self answers w).2 = outcome at heffect
      cases heffect with
      | noop _ hledger | suppressed _ hledger | created _ _ hledger _ | detached _ _ _ _ hledger _ =>
          rw [hledger]
          exact le_refl _
      | failed _ hledger | reused _ _ _ _ hledger =>
          rw [hledger]
          exact Nat.le_succ _
  | getContext task sampled =>
      have heq : (SkyWalking.getContext env task sampled w).1.spans.size = w.spans.size := by
        rw [getContext_spans]
      exact ⟨heq.le.trans (Nat.le_succ _), fun _ => heq⟩
  | start task span => exact hsame (ledger_start task span w) (w.ledger.spans_size_start span)
  | stop task span queueFull =>
      exact hsame (ledger_stop task span queueFull w) (w.ledger.spans_size_stop span)
  | raised span traceback => exact hsame (ledger_modifySpan_of_eq w span rfl) rfl
  | edit span change => exact hsame (ledger_edit env w span change) rfl
  | inject span => exact hsame (ledger_inject env w span) rfl
  | extract span carrier => exact hsame (ledger_extract env w span _) rfl
  | capture task self => exact hsame (ledger_capture w task self) rfl
  | continued task self snapshot => exact hsame (ledger_continued env w task self snapshot) rfl
  | spawn _ _ | thread _ | receive _ _ | putCorrelation _ _ _ | wait _ => exact hsame rfl rfl

theorem ApiStep.parented (h : w.Stacked) (hparented : w.ledger.Parented) (hcontext : InContext w action)
    (hstep : ApiStep env w action w') : w'.ledger.Parented := by
  have hextends := hstep.extends h.inv
  obtain ⟨henabled, rfl⟩ := hstep
  by_cases hnew : ∃ task self answers call, action = .newSpan task self answers call
  · obtain ⟨task, self, answers, call, rfl⟩ := hnew
    exact h.parented hparented henabled.1 hcontext
  · refine hparented.of_size hextends ((action.spans_size_le env w).2 ?_)
    exact fun task self answers call heq => hnew ⟨task, self, answers, call, heq⟩

end Calls

section Archived

variable {env : Env} {w w' : World}

/-- What holds along the runs in which spans are asked for in the current context. -/
structure World.Treed (env : Env) (w : World) : Prop where
  worldOk : WorldOk env w
  stacked : w.Stacked
  parented : w.ledger.Parented

theorem treed_init (env : Env) : World.init.Treed env where
  worldOk := worldOk_init env
  stacked := by
    refine ⟨varsOk_init, sound_init.inv, fun t s hs => ?_, fun t s hs => ?_⟩
    · cases hs
    · cases hs
  parented := by
    constructor
    · intro s hs
      cases hs
    · intro s hs
      cases hs

theorem World.Treed.step (h : w.Treed env) {action : ApiAction} (hcontext : InContext w action)
    (hstep : ApiStep env w action w') : w'.Treed env where
  worldOk := by
    have hkeeps : Keeps env w w' := hstep.2 ▸ keeps_action hstep.1
    exact (hkeeps h.worldOk).1
  stacked := h.stacked.step h.worldOk hstep
  parented := hstep.parented h.stacked h.parented hcontext

theorem ApiStep.filled {action : ApiAction} (hinv : w.ledger.Inv) (hsealed : w.ledger.Sealed)
    (hfilled : w.ledger.Filled) (hfresh : StartsFresh w action) (hstep : ApiStep env w action w') :
    w'.ledger.Filled := by
  obtain ⟨henabled, rfl⟩ := hstep
  obtain ⟨actions, hrun⟩ := action.ledgerRun_fresh hinv hsealed env henabled hfresh
  have hall := hrun.invariant (I := fun l => (l.Inv ∧ l.Sealed) ∧ l.Filled) ?_ ⟨⟨hinv, hsealed⟩, hfilled⟩
  · exact hall.2
  · rintro l label l' ⟨⟨hinv', hsealed'⟩, hfilled'⟩ ⟨hguard, henabled', rfl⟩
    exact ⟨⟨hinv'.apply henabled', hsealed'.apply hinv' henabled' hguard⟩, hfilled'.apply hsealed' label⟩

theorem orderly_run {actions : List ApiAction} (hrun : Run (Guarded Orderly (ApiStep env)) .init actions w) :
    w.Treed env ∧ w.ledger.Sealed ∧ w.ledger.Filled := by
  refine hrun.invariant (I := fun w => w.Treed env ∧ w.ledger.Sealed ∧ w.ledger.Filled) ?_
    ⟨treed_init env, sound_init.sealed, ?_⟩
  · rintro w' action w'' ⟨htreed, hsealed, hfilled⟩ ⟨⟨hfresh, hcontext⟩, hstep⟩
    have hinv := htreed.stacked.inv
    exact ⟨htreed.step hcontext hstep, hstep.sealed hinv hsealed hfresh,
      hstep.filled hinv hsealed hfilled hfresh⟩
  · intro c hc
    cases hc

/-- Nobody is inside a span of an archived segment, so a span of it that was entered is recorded. -/
theorem recorded_of_begun (hinv : w.ledger.Inv) (hsealed : w.ledger.Sealed) {c : Nat} (hc : c ∈ w.archived)
    {s : Nat} (hs : s < w.spans.size) (hcontext : (w.span s).context = c) (hbegun : w.ledger.Begun s) :
    s ∈ w.recorded c := by
  obtain hopen | hrecorded := hbegun
  · have hpos := Ledger.nspans_pos hinv hs hopen
    have hzero : (w.ledger.context (w.ledger.span s).context).nspans = 0 := by
      have hcontext' : (w.ledger.span s).context = c := hcontext
      rw [hcontext']
      exact hsealed.archived_closed c hc
    rw [hzero] at hpos
    cases hpos
  · rw [← hcontext]
    exact hrecorded

theorem World.Treed.tree (h : w.Treed env) (hsealed : w.ledger.Sealed) {c : Nat} (hc : c ∈ w.archived) :
    NumberedTree (w.recorded c) (fun s => (w.span s).sid) fun s => (w.span s).parentNumber := by
  have hinv := h.stacked.inv
  have hspan : ∀ s ∈ w.recorded c, s < w.spans.size ∧ (w.span s).context = c ∧
      (w.ledger.span s).noop = false := by
    intro s hs
    have hlt := hsealed.mem_lt c s hs
    have hcontext := hsealed.mem_context c s hs
    refine ⟨hlt, hcontext, ?_⟩
    rw [hinv.noop_eq s hlt, hcontext]
    exact hsealed.archived_real c hc
  constructor
  · intro s hs s' hs' hsid
    obtain ⟨hlt, hcontext, hreal⟩ := hspan s hs
    obtain ⟨hlt', hcontext', hreal'⟩ := hspan s' hs'
    exact hinv.sid_inj s hlt s' hlt' hreal hreal' (hcontext.trans hcontext'.symm) hsid
  · intro s hs number hnumber
    obtain ⟨hlt, hcontext, hreal⟩ := hspan s hs
    simp only [Span.parentNumber, Option.ite_none_left_eq_some, Option.some.injEq] at hnumber
    obtain ⟨hpid, rfl⟩ := hnumber
    obtain ⟨p, hp, -, hcontext', hsid, hless, hbegun⟩ := h.parented.parent s hlt hreal hpid
    refine ⟨p, recorded_of_begun hinv hsealed hc hp (hcontext'.trans hcontext) hbegun, hsid, hless⟩
  · intro s hs s' hs' hroot hroot'
    obtain ⟨hlt, hcontext, hreal⟩ := hspan s hs
    obtain ⟨hlt', hcontext', hreal'⟩ := hspan s' hs'
    simp only [Span.parentNumber, ite_eq_left_iff, reduceCtorEq, imp_false, not_not] at hroot hroot'
    have hsid : (w.ledger.span s).sid = 0 := (h.parented.root s hlt hreal).mp hroot
    have hsid' : (w.ledger.span s').sid = 0 := (h.parented.root s' hlt' hreal').mp hroot'
    exact hinv.sid_inj s hlt s' hlt' hreal hreal' (hcontext.trans hcontext'.symm) (hsid.trans hsid'.symm)

theorem World.Treed.segmentTree (h : w.Treed env) (hsealed : w.ledger.Sealed) (hfilled : w.ledger.Filled)
    {c : Nat} (hc : c ∈ w.archived) : w.SegmentTree c := by
  have htree := h.tree hsealed hc
  have hfinite : (w.recorded c).Finite := (w.context c).segment.spans.finite_toSet
  have hne : (w.recorded c).Nonempty := List.exists_mem_of_ne_nil _ (hfilled c hc)
  obtain ⟨r, hr, hroot, hreach⟩ := htree.exists_root hfinite hne
  have hlt := hsealed.mem_lt c r hr
  have hcontext := hsealed.mem_context c r hr
  have hreal : (w.ledger.span r).noop = false := by
    rw [h.stacked.inv.noop_eq r hlt, hcontext]
    exact hsealed.archived_real c hc
  simp only [Span.parentNumber, ite_eq_left_iff, reduceCtorEq, imp_false, not_not] at hroot
  exact ⟨htree, r, hr, (h.parented.root r hlt hreal).mp hroot, hroot, hreach⟩

/-- **Segments are trees.** In every run in which spans are asked for in the current context, and none is
entered after it was closed or its segment archived, an archived segment holds the parent of each of its
spans, under a smaller number, and all its spans hang on the one with the number 0. -/
theorem archived_segments_are_trees (env : Env) {actions : List ApiAction} {w : World}
    (hrun : Run (Guarded Orderly (ApiStep env)) .init actions w) {c : Nat} (hc : c ∈ w.archived) :
    w.SegmentTree c := by
  obtain ⟨htreed, hsealed, hfilled⟩ := orderly_run hrun
  exact htreed.segmentTree hsealed hfilled hc

/-- A request with a query and two spans of its own, one of which is left by another task. -/
def familyActions : List ApiAction :=
  [.getContext 0 true,
    .newSpan 0 0 ⟨false, false⟩ (.newEntrySpan "/users" none none),
    .start 0 0,
    .spawn 0 1,
    .newSpan 1 0 ⟨false, false⟩ (.newLocalSpan "load"),
    .start 1 1,
    .newSpan 0 0 ⟨false, false⟩ (.newLocalSpan "render"),
    .newSpan 1 0 ⟨false, false⟩ (.newExitSpan "select" (some "localhost:3306") none none),
    .start 0 2,
    .start 1 3,
    .stop 0 2 false,
    .stop 0 0 false,
    .stop 1 3 false,
    .stop 1 1 false]

theorem family_segment_is_tree :
    ∃ w, runActions .sample Orderly .init familyActions = some w ∧ w.archived = [0] ∧
      (w.context 0).segment.spans = [2, 0, 3, 1] ∧ w.SegmentTree 0 := by
  have hrun : (runActions .sample Orderly .init familyActions).map
      (fun w => (w.archived, (w.context 0).segment.spans)) = some ([0], [2, 0, 3, 1]) := by
    decide +kernel
  obtain ⟨w, hw, hfinal⟩ := Option.map_eq_some_iff.mp hrun
  obtain ⟨harchived, hspans⟩ := Prod.mk.inj hfinal
  refine ⟨w, hw, harchived, hspans, ?_⟩
  exact archived_segments_are_trees .sample (run_of_runActions _ _ _ hw) (harchived ▸ List.mem_singleton_self 0)

end Archived

end SkyWalking
