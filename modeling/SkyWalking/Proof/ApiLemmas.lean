import SkyWalking.Trace.Api
import SkyWalking.Proof.BlockRun

/-!
# Every call of the API is a run of the ledger

The two ledger invariants follow for whole runs of the API: `Inv` for all of them, `Sealed` for those
that enter fresh spans only.
-/

namespace SkyWalking

open World

section Untouched

variable (env : Env) (w : World)

theorem ledger_extract (span : Nat) (carrier : Carrier) :
    (Span.extract env span carrier w).1.ledger = w.ledger := by
  unfold Span.extract
  split
  · rfl
  · exact ledger_extractReal env w span carrier

theorem ledger_capture (task self : Nat) : (SpanContext.capture task self w).1.ledger = w.ledger := by
  unfold SpanContext.capture
  dsimp only
  split
  · rfl
  · split
    · exact ledger_spansGet w task
    · exact ledger_spansGet w task

theorem ledger_isFromCurrent (task self : Nat) (snapshot : Snapshot) :
    (SpanContext.isFromCurrent task self snapshot w).1.ledger = w.ledger := by
  have hcapture := ledger_capture w task self
  unfold SpanContext.isFromCurrent
  split
  · rfl
  · split
    · next heq =>
      rw [heq] at hcapture
      exact hcapture
    · next heq =>
      rw [heq] at hcapture
      exact hcapture

theorem ledger_continued (task self snapshot : Nat) :
    (SpanContext.continued env task self snapshot w).1.ledger = w.ledger := by
  have hcurrent := ledger_isFromCurrent w task self (w.snapshots.get snapshot)
  unfold SpanContext.continued
  dsimp only
  split
  · rfl
  · split
    · next heq =>
      rw [heq] at hcurrent
      exact hcurrent
    · next heq =>
      rw [heq] at hcurrent
      exact hcurrent
    · next w' heq =>
      rw [heq] at hcurrent
      split
      · split
        · exact hcurrent
        · split
          · exact hcurrent
          · next span _ =>
            have hupdate : ∀ w'' : World, (SpanContext.updateCorrelation self
                (w.snapshots.get snapshot) w'').ledger = w''.ledger := fun _ => rfl
            rw [hupdate, ledger_relate, ledger_idOf, ledger_addRef]
            exact hcurrent
      · exact hcurrent

end Untouched

section Simulation

variable {G : Ledger → Ledger.Action → Prop} {l l' l'' : Ledger}

/-- Steps of the ledger that meet a condition which restricts nothing but entering spans. -/
abbrev LedgerRun (G : Ledger → Ledger.Action → Prop) (l l' : Ledger) : Prop :=
  ∃ actions, Run (Guarded G Ledger.Step) l actions l'

theorem LedgerRun.refl (l : Ledger) : LedgerRun G l l := ⟨[], .nil l⟩

theorem LedgerRun.of_eq (heq : l' = l) : LedgerRun G l l' := by
  rw [heq]
  exact .refl l

theorem LedgerRun.step (action : Ledger.Action) (hguard : G l action) (henabled : l.Enabled action) :
    LedgerRun G l (l.apply action) :=
  ⟨[action], .single ⟨hguard, henabled, rfl⟩⟩

theorem LedgerRun.trans (h : LedgerRun G l l') (h' : LedgerRun G l' l'') : LedgerRun G l l'' := by
  obtain ⟨actions, hrun⟩ := h
  obtain ⟨actions', hrun'⟩ := h'
  exact ⟨actions ++ actions', hrun.append hrun'⟩

/-- The condition `G` restricts nothing but entering spans. -/
def OnlyStarts (G : Ledger → Ledger.Action → Prop) : Prop :=
  ∀ l action, (∀ span, action ≠ .start span) → G l action

/-- Asking for a span creates at most a context and a span in it. -/
theorem Call.Effect.ledgerRun (hG : OnlyStarts G) {task self : Nat} {call : Call} {w w' : World}
    {outcome : Except PyError Nat} (heffect : Call.Effect task self call w w' outcome)
    (hself : self < w.contexts.size) : LedgerRun G w.ledger w'.ledger := by
  have hnew := fun noop => w.ledger.context_newContext_size noop
  have hcontext : ∀ noop, LedgerRun G w.ledger (w.ledger.newContext noop) := fun noop =>
    .step (.newContext noop) (hG _ _ fun _ => by simp) trivial
  cases heffect with
  | noop hnoop hledger =>
      rw [hledger]
      exact .step (.createNoop self) (hG _ _ fun _ => by simp) ⟨hself, hnoop⟩
  | suppressed _ hledger =>
      rw [hledger]
      exact (hcontext true).trans (.step (.createNoop w.contexts.size) (hG _ _ fun _ => by simp)
        ⟨Nat.lt_succ_self _, congrArg Ledger.Context.noop (hnew true)⟩)
  | failed _ hledger => exact .of_eq hledger
  | reused _ _ _ _ hledger => exact .of_eq hledger
  | created hreal _ hledger _ =>
      rw [hledger]
      exact .step (.create self _) (hG _ _ fun _ => by simp) ⟨hself, hreal⟩
  | detached _ _ _ _ hledger _ =>
      rw [hledger]
      exact (hcontext false).trans (.step (.create w.contexts.size (-1)) (hG _ _ fun _ => by simp)
        ⟨Nat.lt_succ_self _, congrArg Ledger.Context.noop (hnew false)⟩)

theorem ledgerRun_getContext (hG : OnlyStarts G) (env : Env) (task : Nat) (sampled : Bool)
    (w : World) : LedgerRun G w.ledger (getContext env task sampled w).1.ledger := by
  cases htop : (w.view task).getLast? with
  | some top =>
      rw [getContext_of_top env sampled htop]
      exact .of_eq (ledger_spansGet w task)
  | none =>
      have hempty := List.getLast?_eq_none_iff.mp htop
      rw [(ledger_getContext_of_empty env sampled hempty).1]
      exact .step (.newContext _) (hG _ _ fun _ => by simp) trivial

/-- **Every call of the API is a run of the ledger.** -/
theorem ApiAction.ledgerRun (hG : OnlyStarts G) (env : Env) {w : World} {action : ApiAction}
    (henabled : action.Enabled w)
    (hstart : ∀ task span, action = .start task span → G w.ledger (.start span)) :
    LedgerRun G w.ledger (action.run env w).ledger := by
  cases action with
  | spawn creator child => exact .refl _
  | thread child => exact .refl _
  | getContext task sampled => exact ledgerRun_getContext hG env task sampled w
  | newSpan task self answers call =>
      exact (call.run_effect env task self answers w).ledgerRun hG henabled.1
  | start task span =>
      rw [ApiAction.run, ledger_start]
      exact .step (.start span) (hstart task span rfl) henabled
  | stop task span queueFull =>
      rw [ApiAction.run, ledger_stop]
      exact .step (.stop span) (hG _ _ fun _ => by simp) henabled
  | raised span traceback => exact .of_eq (ledger_modifySpan_of_eq w span rfl)
  | edit span change => exact .of_eq (ledger_edit env w span change)
  | inject span => exact .of_eq (ledger_inject env w span)
  | receive sw8 correlation => exact .refl _
  | extract span carrier => exact .of_eq (ledger_extract env w span _)
  | putCorrelation self key value => exact .refl _
  | capture task self => exact .of_eq (ledger_capture w task self)
  | continued task self snapshot => exact .of_eq (ledger_continued env w task self snapshot)
  | wait seconds => exact .refl _

end Simulation

theorem onlyStarts_true : OnlyStarts fun _ _ => True := fun _ _ _ => trivial

theorem onlyStarts_fresh : OnlyStarts Ledger.Fresh := by
  intro l action hne
  cases action with
  | start span => exact absurd rfl (hne span)
  | newContext => trivial
  | create => trivial
  | createNoop => trivial
  | stop => trivial

theorem ApiStep.inv {env : Env} {w w' : World} {action : ApiAction} (hinv : w.ledger.Inv)
    (hstep : ApiStep env w action w') : w'.ledger.Inv := by
  obtain ⟨henabled, rfl⟩ := hstep
  obtain ⟨actions, hrun⟩ := action.ledgerRun onlyStarts_true env henabled fun _ _ _ => trivial
  refine hrun.invariant ?_ hinv
  rintro l label l' hinv' ⟨_, henabled', rfl⟩
  exact hinv'.apply henabled'

theorem ledger_inv_run {env : Env} {w w' : World} {actions : List ApiAction} (hinv : w.ledger.Inv)
    (hrun : Run (ApiStep env) w actions w') : w'.ledger.Inv :=
  hrun.invariant (fun _ _ _ hinv' hstep => hstep.inv hinv') hinv

theorem Reachable.inv {env : Env} {w : World} (h : Reachable env w) : w.ledger.Inv := by
  obtain ⟨actions, hrun⟩ := h
  exact ledger_inv_run sound_init.inv hrun

theorem ApiStep.sealed {env : Env} {w w' : World} {action : ApiAction} (hinv : w.ledger.Inv)
    (hsealed : w.ledger.Sealed) (hfresh : StartsFresh w action) (hstep : ApiStep env w action w') :
    w'.ledger.Sealed := by
  obtain ⟨henabled, rfl⟩ := hstep
  have hstart : ∀ task span, action = .start task span → w.ledger.Fresh (.start span) := by
    rintro task span rfl
    by_cases hnoop : (w.span span).cls = .NoopSpan
    · refine .of_noop hsealed ?_
      rw [← hinv.noop_eq span henabled]
      exact toLedger_noop.mpr hnoop
    · exact hfresh hnoop
  obtain ⟨actions, hrun⟩ := action.ledgerRun onlyStarts_fresh env henabled hstart
  have hboth : w.ledger.Inv ∧ w.ledger.Sealed := ⟨hinv, hsealed⟩
  have hresult := hrun.invariant (I := fun l => l.Inv ∧ l.Sealed) ?_ hboth
  · exact hresult.2
  · rintro l label l' ⟨hinv', hsealed'⟩ ⟨hguard, henabled', rfl⟩
    exact ⟨hinv'.apply henabled', hsealed'.apply hinv' henabled' hguard⟩

/-- **At most once.** In every run in which no finished span and no span of an archived segment is
entered, no segment is archived twice and no span occurs twice in a segment. -/
theorem api_archives_at_most_once (env : Env) {actions : List ApiAction} {w : World}
    (hrun : Run (Guarded StartsFresh (ApiStep env)) .init actions w) : w.AtMostOnce := by
  have hresult := hrun.invariant (I := fun w => w.ledger.Inv ∧ w.ledger.Sealed) ?_
    ⟨sound_init.inv, sound_init.sealed⟩
  · exact ⟨hresult.2.archived_nodup, hresult.2.nodup⟩
  · rintro w' action w'' ⟨hinv, hsealed⟩ ⟨hfresh, hstep⟩
    exact ⟨hstep.inv hinv, hstep.sealed hinv hsealed hfresh⟩

theorem run_of_runActions (env : Env) (guard : World → ApiAction → Prop)
    [∀ w action, Decidable (guard w action)] (actions : List ApiAction) :
    ∀ {w w' : World}, runActions env guard w actions = some w' →
      Run (Guarded guard (ApiStep env)) w actions w' := by
  induction actions with
  | nil =>
      intro w w' h
      rw [runActions, Option.some.injEq] at h
      exact h ▸ .nil w
  | cons action rest ih =>
      intro w w' h
      rw [runActions] at h
      split at h
      · next hok => exact Run.append (.single ⟨hok.1, hok.2, rfl⟩) (ih h)
      · cases h

/-- A request that is handled and archived. -/
def requestActions : List ApiAction :=
  [.getContext 0 true,
    .newSpan 0 0 ⟨false, false⟩ (.newEntrySpan "https://github.com/apache" none none),
    .start 0 0,
    .edit 0 (.component .Flask),
    .stop 0 0 false]

/-- The context of the request is used again after its root span has ended. -/
def heldContextActions : List ApiAction :=
  requestActions ++
    [.newSpan 0 0 ⟨false, false⟩
      (.newExitSpan "https://github.com/apache" (some "localhost:8080") (some .Flask) none),
    .start 0 1,
    .stop 0 1 false]

theorem request_archived_once :
    ∃ w, runActions .sample StartsFresh .init requestActions = some w ∧ w.archived = [0] ∧
      w.AtMostOnce := by
  have harchived : (runActions .sample StartsFresh .init requestActions).map World.archived =
      some [0] := by decide +kernel
  obtain ⟨w, hw, harchivedW⟩ := Option.map_eq_some_iff.mp harchived
  exact ⟨w, hw, harchivedW, api_archives_at_most_once .sample (run_of_runActions _ _ _ hw)⟩

/-- The first two blocks of the example in the manual: the segment of the held context is archived
again. -/
theorem held_context_archived_twice :
    ∃ actions w, Run (ApiStep .sample) .init actions w ∧ ¬ w.AtMostOnce := by
  have harchived : (runActions .sample (fun _ _ => True) .init heldContextActions).map
      World.archived = some [0, 0] := by decide +kernel
  obtain ⟨w, hw, harchivedW⟩ := Option.map_eq_some_iff.mp harchived
  refine ⟨heldContextActions, w, (run_of_runActions _ _ _ hw).mono fun _ _ _ h => h.2, ?_⟩
  rintro ⟨hnodup, _⟩
  rw [harchivedW] at hnodup
  exact absurd hnodup (by decide)

end SkyWalking
