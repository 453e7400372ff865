import Mathlib
import SkyWalking.Agent.Supervisor

/-!
# Every failure of a background task is logged once

The mark of a task and its record in the log go together. Before `finished` is set the log is empty:
the supervisor sets it with the first record. Whatever is done when the cleanup begins is logged by its
first loop, and what is left by its last one.
-/

namespace SkyWalking

namespace Supervisor

variable {s s' : State} {task : Nat}

/-- What the log has to say about an outcome, if it says anything. -/
def Outcome.report : Outcome → Exc
  | .returned => unexpectedCompletion
  | .raised exc => exc
  | .cancelled => unexpectedCancellation

namespace State

theorem update_apply (s : State) (task other : Nat) (f : Task → Task) :
    s.update task f other = if other = task then f (s.task task) else s.task other :=
  Function.update_apply ..

/-- What a change of a task does not touch is the same for every task. -/
theorem update_kept {β : Type} (part : Task → β) {f : Task → Task} (hf : ∀ t, part (f t) = part t)
    (s : State) (task other : Nat) : part (s.update task f other) = part (s.task other) := by
  rw [update_apply]
  by_cases hother : other = task
  · rw [if_pos hother, hf, hother]
  · rw [if_neg hother]

theorem record_outcome (s : State) (task other : Nat) (exc : Exc) :
    ((s.record task exc).task other).outcome = (s.task other).outcome :=
  s.update_kept (f := Task.mark) Task.outcome (fun _ => rfl) task other

theorem record_cancelRequested (s : State) (task other : Nat) (exc : Exc) :
    ((s.record task exc).task other).cancelRequested = (s.task other).cancelRequested :=
  s.update_kept (f := Task.mark) Task.cancelRequested (fun _ => rfl) task other

theorem record_handled (s : State) (task other : Nat) (exc : Exc) :
    ((s.record task exc).task other).outcomeHandled =
      (decide (other = task) || (s.task other).outcomeHandled) := by
  change (s.update task Task.mark other).outcomeHandled = _
  rw [update_apply]
  by_cases hother : other = task
  · rw [if_pos hother, decide_eq_true hother, Bool.true_or, Task.mark]
  · rw [if_neg hother, decide_eq_false hother, Bool.false_or]

theorem recordsOf_record (s : State) (task other : Nat) (exc : Exc) :
    (s.record task exc).recordsOf other =
      s.recordsOf other ++ if task = other then [⟨task, exc, s.finished⟩] else [] := by
  unfold recordsOf record
  rw [List.filter_append]
  congr 1
  by_cases hother : task = other
  · simp [hother]
  · simp [hother]

end State

/-- The marks, the records and the outcomes agree. -/
structure Ledger (s : State) : Prop where
  silent : ∀ task, (s.task task).outcomeHandled = false → s.recordsOf task = []
  logged : ∀ task, (s.task task).outcomeHandled = true → ∃ outcome finished,
    (s.task task).outcome = some outcome ∧ s.recordsOf task = [⟨task, outcome.report, finished⟩]
  known : ∀ record ∈ s.errors, some record.task ∈ s.backgroundTasks ∧
    (s.raised record.task = true ∨ record.finished = false ∧ record.task ∈ s.early)

theorem Ledger.init (current : Nat) (backgroundTasks : List (Option Nat)) :
    Ledger (.init current backgroundTasks) where
  silent _ _ := rfl
  logged _ h := by cases h
  known _ h := by cases h

theorem Ledger.record (h : Ledger s) {outcome : Outcome} (hnew : (s.task task).outcomeHandled = false)
    (houtcome : (s.task task).outcome = some outcome) (hbackground : some task ∈ s.backgroundTasks)
    (hknown : s.raised task = true ∨ s.finished = false ∧ task ∈ s.early) :
    Ledger (s.record task outcome.report) where
  silent other hother := by
    rw [State.record_handled, Bool.or_eq_false_iff, decide_eq_false_iff_not] at hother
    rw [State.recordsOf_record, if_neg (Ne.symm hother.1), List.append_nil]
    exact h.silent other hother.2
  logged other hother := by
    rw [State.record_handled, Bool.or_eq_true, decide_eq_true_iff] at hother
    by_cases hsame : other = task
    · subst hsame
      refine ⟨outcome, s.finished, (State.record_outcome ..).trans houtcome, ?_⟩
      rw [State.recordsOf_record, if_pos rfl, h.silent other hnew, List.nil_append]
    · obtain ⟨outcome', finished, houtcome', hrecords⟩ := h.logged other (hother.resolve_left hsame)
      refine ⟨outcome', finished, (State.record_outcome ..).trans houtcome', ?_⟩
      rw [State.recordsOf_record, if_neg (Ne.symm hsame), List.append_nil, hrecords]
  known record hrecord := by
    have hraised : ∀ other, (s.record task outcome.report).raised other = s.raised other :=
      fun other => congrArg (Option.any Outcome.isRaised) (State.record_outcome ..)
    rw [hraised]
    obtain hold | hlast := List.mem_append.mp hrecord
    · exact h.known record hold
    · obtain rfl := List.mem_singleton.mp hlast
      exact ⟨hbackground, hknown⟩

theorem State.outcome_eq_none (hrunning : s.isDone task = false) : (s.task task).outcome = none :=
  Option.isNone_iff_eq_none.mp (Option.isSome_eq_false_iff.mp hrunning)

/-- A task that ends was not marked. -/
theorem Ledger.ends (h : Ledger s) (hrunning : s.isDone task = false) (outcome : Outcome)
    (early : List Nat) (hearly : ∀ other ∈ s.early, other ∈ early) :
    Ledger { s with task := s.update task (Task.finish outcome), early := early } := by
  have hnone := State.outcome_eq_none hrunning
  have hnew : (s.task task).outcomeHandled = false := by
    by_contra hmarked
    obtain ⟨other, finished, hother, -⟩ := h.logged task (Bool.eq_true_of_not_eq_false hmarked)
    rw [hnone] at hother
    cases hother
  have hhandled := s.update_kept (f := Task.finish outcome)
    Task.outcomeHandled (fun _ => rfl) task
  have hother : ∀ other, other ≠ task →
      s.update task (Task.finish outcome) other = s.task other :=
    fun other hne => (s.update_apply ..).trans (if_neg hne)
  refine ⟨?_, ?_, ?_⟩
  · intro other hmark
    exact h.silent other ((hhandled other).symm.trans hmark)
  · intro other hmark
    have hmark' := (hhandled other).symm.trans hmark
    have hne : other ≠ task := by
      rintro rfl
      rw [hnew] at hmark'
      cases hmark'
    obtain ⟨outcome', finished, houtcome', hrecords⟩ := h.logged other hmark'
    exact ⟨outcome', finished, (congrArg Task.outcome (hother other hne)).trans houtcome', hrecords⟩
  · intro record hrecord
    obtain ⟨hbackground, hknown⟩ := h.known record hrecord
    refine ⟨hbackground, hknown.imp (fun hraised => ?_) fun hlate => ⟨hlate.1, hearly _ hlate.2⟩⟩
    have hne : record.task ≠ task := by
      intro hsame
      rw [State.raised, hsame, hnone] at hraised
      cases hraised
    change (s.update task (Task.finish outcome) record.task).outcome.any Outcome.isRaised = true
    rw [hother _ hne]
    exact hraised

theorem Ledger.cancel (h : Ledger s) (task : Nat) : Ledger (s.cancel task) := by
  have houtcome := s.update_kept (f := Task.cancel)
    Task.outcome (fun _ => rfl) task
  have hhandled := s.update_kept (f := Task.cancel)
    Task.outcomeHandled (fun _ => rfl) task
  refine ⟨?_, ?_, ?_⟩
  · intro other hmark
    exact h.silent other ((hhandled other).symm.trans hmark)
  · intro other hmark
    obtain ⟨outcome, finished, hother, hrecords⟩ := h.logged other ((hhandled other).symm.trans hmark)
    exact ⟨outcome, finished, (houtcome other).trans hother, hrecords⟩
  · intro record hrecord
    have hraised : (s.cancel task).raised record.task = s.raised record.task :=
      congrArg (Option.any Outcome.isRaised) (houtcome _)
    rw [hraised]
    exact h.known record hrecord

/-- If the task has raised, that is logged. -/
def State.Settled (s : State) (task : Nat) : Prop :=
  s.raised task = true → (s.task task).outcomeHandled = true

/-- The tasks that were not done when the cleanup began are cancelled. -/
def State.AllCancelled (s : State) : Prop :=
  ∀ task ∈ s.left, task ≠ s.current → (s.task task).cancelRequested = true

def State.PhaseOk (s : State) : Prop :=
  match s.phase with
  | .entered | .waiting | .waitingFinished => True
  | .closing | .returned => s.finished = true
  | .gathering pending => s.finished = true ∧ (∀ task ∈ pending, task ∈ s.owned) ∧
      (∀ task ∈ s.owned, task ∈ pending ∨ s.isDone task = true ∧ s.Settled task) ∧ s.AllCancelled
  | .cleaned => s.finished = true ∧ (∀ task ∈ s.owned, s.Settled task) ∧ s.AllCancelled

structure Inv (s : State) : Prop where
  ledger : Ledger s
  unlogged : s.finished = false → s.errors = []
  few : (s.errors.filter fun record => !record.finished).length ≤ 1
  early : s.finished = false → ∀ task, s.isDone task = true → task ∈ s.early
  waiter : s.waiterDone = true ∨ s.waiterCancelled = true → s.finished = true
  pending : ∀ task ∈ s.pending, some task ∈ s.backgroundTasks
  current : s.isDone s.current = false
  phaseOk : s.PhaseOk

theorem Inv.init (current : Nat) (backgroundTasks : List (Option Nat)) :
    Inv (.init current backgroundTasks) where
  ledger := .init current backgroundTasks
  unlogged _ := rfl
  few := Nat.zero_le 1
  early _ _ h := by cases h
  waiter h := by simp [State.init] at h
  pending _ h := by cases h
  current := rfl
  phaseOk := trivial

theorem mem_owned : task ∈ s.owned ↔ some task ∈ s.backgroundTasks ∧ task ≠ s.current := by
  simp [State.owned]

/-- The tasks change, but nothing that is done does, and neither marks nor cancellations are lost. -/
theorem State.PhaseOk.of_tasks (hok : s.PhaseOk) (hphase : s'.phase = s.phase)
    (hnot : s.phase ≠ .cleaned) (hfinished : s.finished = true → s'.finished = true)
    (howned : s'.owned = s.owned) (hleft : s'.left = s.left) (hcurrent : s'.current = s.current)
    (hcancel : ∀ task, (s.task task).cancelRequested = true → (s'.task task).cancelRequested = true)
    (hsettled : ∀ task, s.isDone task = true → s.Settled task →
      s'.isDone task = true ∧ s'.Settled task) : s'.PhaseOk := by
  unfold State.PhaseOk at hok ⊢
  rw [hphase]
  generalize s.phase = phase at hok hnot
  cases phase with
  | entered => trivial
  | waiting => trivial
  | waitingFinished => trivial
  | closing => exact hfinished hok
  | returned => exact hfinished hok
  | gathering pending =>
      obtain ⟨hset, hpending, hdone, hcancelled⟩ := hok
      dsimp only
      rw [howned]
      refine ⟨hfinished hset, hpending, fun task hmem => ?_, fun task hmem hne => ?_⟩
      · exact (hdone task hmem).imp_right fun hold => hsettled task hold.1 hold.2
      · rw [hleft] at hmem
        rw [hcurrent] at hne
        exact hcancel task (hcancelled task hmem hne)
  | cleaned => exact absurd rfl hnot

/-- Neither the tasks nor the log change. -/
theorem Inv.moved (h : Inv s) {phase : Phase} {waiterDone waiterCancelled : Bool}
    {pending warnings left : List Nat}
    (hwaiter : waiterDone = true ∨ waiterCancelled = true → s.finished = true)
    (hpending : ∀ task ∈ pending, some task ∈ s.backgroundTasks)
    (hphase : State.PhaseOk { s with
      waiterDone := waiterDone
      waiterCancelled := waiterCancelled
      pending := pending
      phase := phase
      warnings := warnings
      left := left }) :
    Inv { s with
      waiterDone := waiterDone
      waiterCancelled := waiterCancelled
      pending := pending
      phase := phase
      warnings := warnings
      left := left } where
  ledger := ⟨h.ledger.silent, h.ledger.logged, h.ledger.known⟩
  unlogged := h.unlogged
  few := h.few
  early := h.early
  waiter := hwaiter
  pending := hpending
  current := h.current
  phaseOk := hphase

theorem Inv.ends (h : Inv s) (hnot : s.phase ≠ .cleaned) {outcome : Outcome}
    (hstep : s.ends task outcome = some s') : Inv s' := by
  unfold State.ends at hstep
  split at hstep
  · cases hstep
  · next hfree =>
    obtain ⟨hrunning, hcurrent⟩ := not_or.mp hfree
    obtain rfl := Option.some.inj hstep
    have hother : ∀ other, other ≠ task → s.update task (Task.finish outcome) other = s.task other :=
      fun other hne => (s.update_apply ..).trans (if_neg hne)
    have hcancel := s.update_kept (f := Task.finish outcome) Task.cancelRequested (fun _ => rfl) task
    refine ⟨?_, h.unlogged, h.few, ?_, h.waiter, h.pending, ?_, ?_⟩
    · refine h.ledger.ends (Bool.eq_false_of_not_eq_true hrunning) outcome _ fun other hold => ?_
      by_cases hfinished : s.finished = true
      · rw [if_pos hfinished]
        exact hold
      · rw [if_neg hfinished]
        exact List.mem_cons_of_mem _ hold
    · intro hfinished other hdone
      dsimp only at hfinished ⊢
      rw [hfinished, if_neg Bool.false_ne_true]
      by_cases hsame : other = task
      · exact hsame ▸ List.mem_cons_self
      · have hold := (congrArg Task.done (hother other hsame)).symm.trans hdone
        exact List.mem_cons_of_mem _ (h.early hfinished other hold)
    · exact (congrArg Task.done (hother s.current (Ne.symm hcurrent))).trans h.current
    · refine h.phaseOk.of_tasks rfl hnot id rfl rfl rfl (fun other hold => ?_) fun other hdone hold => ?_
      · exact (hcancel other).trans hold
      · have hne : other ≠ task := by
          rintro rfl
          exact hrunning hdone
        change (s.update task (Task.finish outcome) other).done = true ∧
          ((s.update task (Task.finish outcome) other).outcome.any Outcome.isRaised = true →
            (s.update task (Task.finish outcome) other).outcomeHandled = true)
        rw [hother other hne]
        exact ⟨hdone, hold⟩

theorem Inv.set (h : Inv s) (hnot : s.phase ≠ .cleaned) : Inv { s with finished := true } where
  ledger := ⟨h.ledger.silent, h.ledger.logged, h.ledger.known⟩
  unlogged hfinished := by cases hfinished
  few := h.few
  early hfinished := by cases hfinished
  waiter _ := rfl
  pending := h.pending
  current := h.current
  phaseOk := h.phaseOk.of_tasks rfl hnot (fun _ => rfl) rfl rfl rfl (fun _ hold => hold)
    fun _ hdone hold => ⟨hdone, hold⟩

theorem Inv.waiterEnds (h : Inv s) (hnot : s.phase ≠ .cleaned) (hstep : s.waiterEnds = some s') :
    Inv s' := by
  unfold State.waiterEnds at hstep
  split at hstep
  · next hends =>
    have hfinished : s.finished = true := by
      obtain hfinished | hcancelled := hends.2.2
      · exact hfinished
      · exact h.waiter (.inr hcancelled)
    obtain rfl := Option.some.inj hstep
    refine h.moved (fun _ => hfinished) h.pending ?_
    exact h.phaseOk.of_tasks rfl hnot id rfl rfl rfl (fun _ hold => hold)
      fun _ hdone hold => ⟨hdone, hold⟩
  · cases hstep

theorem Inv.close (h : Inv s) (hfinished : s.finished = true) : Inv s.close := by
  unfold State.close
  by_cases hwaiter : s.waiterDone = true
  · rw [if_pos hwaiter]
    exact h.moved h.waiter h.pending hfinished
  · rw [if_neg hwaiter]
    exact h.moved (fun _ => hfinished) h.pending hfinished

theorem Inv.loop (h : Inv s) : Inv s.loop := by
  unfold State.loop
  by_cases hfinished : s.finished = true
  · rw [if_pos hfinished]
    exact h.close hfinished
  · rw [if_neg hfinished]
    split
    · exact h.moved h.waiter h.pending trivial
    · exact h.moved h.waiter h.pending trivial

theorem Inv.supervise (h : Inv s) (hstep : s.supervise = some s') : Inv s' := by
  unfold State.supervise at hstep
  split at hstep
  · next hphase =>
    obtain rfl := Option.some.inj hstep
    apply Inv.loop
    refine h.moved h.waiter (fun task hmem => ?_) ?_
    · simpa using hmem
    · unfold State.PhaseOk
      simp [hphase]
  · cases hstep

/-- What `_log_background_task_outcome` does. -/
theorem log_cases (completion cancellation : Bool) (task : Nat) (s : State) :
    s.logBackgroundTaskOutcome completion cancellation task = (false, s) ∧
        ((s.task task).outcomeHandled = true ∨ retrieveBackgroundTaskOutcome completion cancellation
          (some (s.task task)) = none) ∨
      ∃ outcome, (s.task task).outcomeHandled = false ∧ (s.task task).outcome = some outcome ∧
        retrieveBackgroundTaskOutcome completion cancellation (some (s.task task)) =
          some outcome.report ∧
        s.logBackgroundTaskOutcome completion cancellation task =
          (true, s.record task outcome.report) := by
  unfold State.logBackgroundTaskOutcome
  by_cases hmarked : (s.task task).outcomeHandled = true
  · left
    exact ⟨if_pos hmarked, .inl hmarked⟩
  · rw [if_neg hmarked]
    cases hretrieved : retrieveBackgroundTaskOutcome completion cancellation (some (s.task task)) with
    | none => exact .inl ⟨rfl, .inr rfl⟩
    | some exc =>
        right
        simp only [retrieveBackgroundTaskOutcome] at hretrieved
        have hreport : ∃ outcome, (s.task task).outcome = some outcome ∧ exc = outcome.report := by
          split at hretrieved
          · cases hretrieved
          · next houtcome =>
            split at hretrieved
            · exact ⟨_, houtcome, (Option.some.inj hretrieved).symm⟩
            · cases hretrieved
          · next houtcome => exact ⟨_, houtcome, (Option.some.inj hretrieved).symm⟩
          · next houtcome =>
            split at hretrieved
            · exact ⟨_, houtcome, (Option.some.inj hretrieved).symm⟩
            · cases hretrieved
        obtain ⟨outcome, houtcome, rfl⟩ := hreport
        exact ⟨outcome, Bool.eq_false_of_not_eq_true hmarked, houtcome, rfl, rfl⟩

/-- The first outcome that is logged sets `finished`. -/
theorem Inv.superviseDone (done : List Nat) : ∀ {s : State}, Inv s → s.finished = false →
    s.phase = .waiting → (∀ task ∈ done, some task ∈ s.backgroundTasks ∧ s.isDone task = true) →
    Inv (s.superviseDone done) := by
  induction done with
  | nil =>
      intro s h _ _ _
      exact h.loop
  | cons task rest ih =>
      intro s h hfinished hphase hdone
      obtain ⟨hbackground, hended⟩ := hdone task List.mem_cons_self
      have hdropped : Inv { s with pending := s.pending.erase task } := by
        refine h.moved h.waiter (fun other hmem => h.pending other (List.mem_of_mem_erase hmem)) ?_
        unfold State.PhaseOk
        simp [hphase]
      unfold State.superviseDone
      obtain ⟨hlog, -⟩ | ⟨outcome, hnew, houtcome, -, hlog⟩ :=
        log_cases true true task { s with pending := s.pending.erase task }
      · rw [hlog]
        exact ih hdropped hfinished hphase fun other hmem => hdone other (List.mem_cons_of_mem _ hmem)
      · rw [hlog]
        have hearly : task ∈ s.early := h.early hfinished task hended
        have hrecorded := hdropped.ledger.record hnew houtcome hbackground (.inr ⟨hfinished, hearly⟩)
        refine Inv.close ⟨⟨hrecorded.silent, hrecorded.logged, hrecorded.known⟩, ?_, ?_, ?_, ?_,
          hdropped.pending, ?_, ?_⟩ rfl
        · intro hunset
          cases hunset
        · change ((s.errors ++ [_]).filter _).length ≤ 1
          rw [h.unlogged hfinished]
          exact List.length_filter_le _ _
        · intro hunset
          cases hunset
        · exact fun _ => rfl
        · exact (congrArg Option.isSome (s.record_outcome task s.current outcome.report)).trans h.current
        · unfold State.PhaseOk
          simp [State.record, hphase]

theorem Inv.wake (h : Inv s) {done : List Nat} (hstep : s.wake done = some s') : Inv s' := by
  unfold State.wake at hstep
  split at hstep
  · next hphase =>
    split at hstep
    · next hdone =>
      split at hstep
      · next hover =>
        obtain rfl := Option.some.inj hstep
        refine h.close ?_
        obtain hwaiter | hfinished := hover
        · exact h.waiter (.inl hwaiter)
        · exact hfinished
      · next hgoes =>
        obtain rfl := Option.some.inj hstep
        obtain ⟨-, hunset⟩ := not_or.mp hgoes
        refine Inv.superviseDone done h (Bool.eq_false_of_not_eq_true hunset) hphase fun task hmem => ?_
        obtain ⟨hpending, hended⟩ := List.mem_filter.mp (hdone.1.mem_iff.mp hmem)
        exact ⟨h.pending task hpending, hended⟩
    · cases hstep
  · cases hstep

theorem Inv.released (h : Inv s) (hstep : s.released = some s') : Inv s' := by
  unfold State.released at hstep
  split at hstep
  · split at hstep
    · next hfinished =>
      obtain rfl := Option.some.inj hstep
      exact h.close hfinished
    · cases hstep
  · cases hstep

theorem Inv.closed (h : Inv s) (hstep : s.closed = some s') : Inv s' := by
  unfold State.closed at hstep
  split at hstep
  · split at hstep
    · next hwaiter =>
      obtain rfl := Option.some.inj hstep
      exact h.moved h.waiter h.pending (h.waiter (.inl hwaiter))
    · cases hstep
  · cases hstep

/-- The state is another one only by what the cleanup logs and marks. -/
structure Marks (s s' : State) : Prop where
  current : s'.current = s.current
  backgroundTasks : s'.backgroundTasks = s.backgroundTasks
  finished : s'.finished = s.finished
  phase : s'.phase = s.phase
  left : s'.left = s.left
  outcome : ∀ task, (s'.task task).outcome = (s.task task).outcome
  cancelRequested : ∀ task, (s'.task task).cancelRequested = (s.task task).cancelRequested
  handled : ∀ task, (s.task task).outcomeHandled = true → (s'.task task).outcomeHandled = true

theorem Marks.refl (s : State) : Marks s s :=
  ⟨rfl, rfl, rfl, rfl, rfl, fun _ => rfl, fun _ => rfl, fun _ h => h⟩

theorem Marks.trans {s'' : State} (h : Marks s s') (h' : Marks s' s'') : Marks s s'' where
  current := h'.current.trans h.current
  backgroundTasks := h'.backgroundTasks.trans h.backgroundTasks
  finished := h'.finished.trans h.finished
  phase := h'.phase.trans h.phase
  left := h'.left.trans h.left
  outcome task := (h'.outcome task).trans (h.outcome task)
  cancelRequested task := (h'.cancelRequested task).trans (h.cancelRequested task)
  handled task hold := h'.handled task (h.handled task hold)

theorem Marks.owned (h : Marks s s') : s'.owned = s.owned := by
  unfold State.owned
  rw [h.backgroundTasks, h.current]

theorem Marks.isDone (h : Marks s s') (task : Nat) : s'.isDone task = s.isDone task :=
  congrArg Option.isSome (h.outcome task)

theorem Marks.raised (h : Marks s s') (task : Nat) : s'.raised task = s.raised task :=
  congrArg (Option.any Outcome.isRaised) (h.outcome task)

theorem Marks.settled (h : Marks s s') (hold : s.Settled task) : s'.Settled task := by
  intro hraised
  exact h.handled task (hold ((h.raised task).symm.trans hraised))

theorem Marks.record (s : State) (task : Nat) (exc : Exc) : Marks s (s.record task exc) where
  current := rfl
  backgroundTasks := rfl
  finished := rfl
  phase := rfl
  left := rfl
  outcome other := s.record_outcome task other exc
  cancelRequested other := s.record_cancelRequested task other exc
  handled other hold := by
    rw [State.record_handled, hold, Bool.or_true]

/-- Only an exception is reported with both flags down. -/
theorem raised_of_retrieved {exc : Exc}
    (h : retrieveBackgroundTaskOutcome false false (some (s.task task)) = some exc) :
    s.raised task = true := by
  simp only [retrieveBackgroundTaskOutcome] at h
  split at h
  · cases h
  · cases h
  · next houtcome => rw [State.raised, houtcome, Option.any_some, Outcome.isRaised]
  · cases h

theorem retrieved_of_raised (h : s.raised task = true) :
    retrieveBackgroundTaskOutcome false false (some (s.task task)) ≠ none := by
  intro hnone
  unfold State.raised at h
  simp only [retrieveBackgroundTaskOutcome] at hnone
  split at hnone
  · next houtcome =>
    rw [houtcome] at h
    cases h
  · next houtcome =>
    rw [houtcome] at h
    cases h
  · cases hnone
  · next houtcome =>
    rw [houtcome] at h
    cases h

/-- What the cleanup does about a task. -/
theorem Inv.logOutcome (h : Inv s) (hnot : s.phase ≠ .cleaned) (hfinished : s.finished = true)
    (hmem : task ∈ s.owned) :
    Inv (s.logOutcome task) ∧ Marks s (s.logOutcome task) ∧ (s.logOutcome task).Settled task := by
  unfold State.logOutcome
  obtain ⟨hlog, hwhy⟩ | ⟨outcome, hnew, houtcome, hretrieved, hlog⟩ := log_cases false false task s
  · rw [hlog]
    refine ⟨h, .refl s, fun hraised => ?_⟩
    obtain hmarked | hnone := hwhy
    · exact hmarked
    · exact absurd hnone (retrieved_of_raised hraised)
  · rw [hlog]
    have hraised := raised_of_retrieved hretrieved
    have hmarks := Marks.record s task outcome.report
    refine ⟨⟨?_, ?_, ?_, ?_, h.waiter, h.pending, ?_, ?_⟩, hmarks, ?_⟩
    · exact h.ledger.record hnew houtcome (mem_owned.mp hmem).1 (.inl hraised)
    · intro hunset
      exact absurd (hunset.symm.trans hfinished) Bool.false_ne_true
    · change ((s.errors ++ [ErrorRecord.mk task outcome.report s.finished]).filter _).length ≤ 1
      rw [List.filter_append, hfinished]
      simpa using h.few
    · intro hunset
      exact absurd (hunset.symm.trans hfinished) Bool.false_ne_true
    · exact (hmarks.isDone _).trans h.current
    · refine h.phaseOk.of_tasks rfl hnot id rfl rfl rfl (fun other hold => ?_) fun other hdone hold => ?_
      · exact (hmarks.cancelRequested other).trans hold
      · exact ⟨(hmarks.isDone other).trans hdone, hmarks.settled hold⟩
    · intro _
      rw [State.record_handled, decide_eq_true rfl, Bool.true_or]

theorem Inv.logOutcomes (tasks : List Nat) : ∀ {s : State}, Inv s → s.phase ≠ .cleaned →
    s.finished = true → (∀ task ∈ tasks, task ∈ s.owned) →
    Inv (tasks.foldl State.logOutcome s) ∧ Marks s (tasks.foldl State.logOutcome s) ∧
      ∀ task ∈ tasks, (tasks.foldl State.logOutcome s).Settled task := by
  induction tasks with
  | nil =>
      intro s h _ _ _
      exact ⟨h, .refl s, fun _ hmem => by cases hmem⟩
  | cons task rest ih =>
      intro s h hnot hfinished howned
      rw [List.foldl_cons]
      obtain ⟨hhead, hmarks, hsettled⟩ := h.logOutcome hnot hfinished (howned task List.mem_cons_self)
      obtain ⟨hrest, hmarks', hsettled'⟩ := ih hhead (hmarks.phase ▸ hnot)
        (hmarks.finished.trans hfinished) fun other hmem =>
          hmarks.owned ▸ howned other (List.mem_cons_of_mem _ hmem)
      refine ⟨hrest, hmarks.trans hmarks', fun other hmem => ?_⟩
      obtain rfl | hmem := List.mem_cons.mp hmem
      · exact hmarks'.settled hsettled
      · exact hsettled' other hmem

theorem logDone_eq (s : State) (task : Nat) : s.logDone task = s.logOutcome task := by
  unfold State.logDone
  by_cases hdone : s.isDone task = true
  · rw [if_pos hdone]
  · rw [if_neg hdone]
    have hnone := State.outcome_eq_none (Bool.eq_false_of_not_eq_true hdone)
    obtain ⟨hlog, -⟩ | ⟨outcome, -, houtcome, -⟩ := log_cases false false task s
    · rw [State.logOutcome, hlog]
    · rw [hnone] at houtcome
      cases houtcome

/-- What `cancel()` on each of them changes. -/
theorem cancel_cases (tasks : List Nat) : ∀ s : State, (Ledger s → Ledger (tasks.foldl State.cancel s)) ∧
    ∃ task, tasks.foldl State.cancel s = { s with task := task } ∧
      (∀ other, (task other).outcome = (s.task other).outcome ∧
        (task other).outcomeHandled = (s.task other).outcomeHandled ∧
        ((s.task other).cancelRequested = true ∨ other ∈ tasks →
          (task other).cancelRequested = true)) := by
  induction tasks with
  | nil => exact fun s => ⟨id, s.task, rfl, fun other => ⟨rfl, rfl, fun h => by simpa using h⟩⟩
  | cons head rest ih =>
      intro s
      obtain ⟨hledger, task, heq, htask⟩ := ih (s.cancel head)
      rw [List.foldl_cons]
      refine ⟨fun h => hledger (h.cancel head), task, heq, fun other => ?_⟩
      obtain ⟨houtcome, hhandled, hcancel⟩ := htask other
      refine ⟨?_, ?_, fun h => hcancel ?_⟩
      · exact houtcome.trans (s.update_kept (f := Task.cancel) Task.outcome (fun _ => rfl) head other)
      · exact hhandled.trans
          (s.update_kept (f := Task.cancel) Task.outcomeHandled (fun _ => rfl) head other)
      · change (s.update head Task.cancel other).cancelRequested = true ∨ other ∈ rest
        rw [State.update_apply]
        by_cases hsame : other = head
        · rw [if_pos hsame]
          exact .inl rfl
        · rw [if_neg hsame]
          exact h.imp_right fun hmem => (List.mem_cons.mp hmem).resolve_left hsame

theorem Inv.cancelPending (h : Inv s) (hfinished : s.finished = true)
    (hsettled : ∀ task ∈ s.owned, s.Settled task)
    (hleft : ∀ task ∈ s.left, task ≠ s.current → task ∈ s.owned ∧ s.isDone task = false) :
    Inv s.cancelPending := by
  unfold State.cancelPending
  dsimp only
  split
  · next hempty =>
    refine h.moved h.waiter h.pending ⟨hfinished, hsettled, fun task hmem hne => ?_⟩
    obtain ⟨howned, hrunning⟩ := hleft task hmem hne
    have hnone := List.filter_eq_nil_iff.mp (List.isEmpty_iff.mp hempty) task howned
    simp [hrunning] at hnone
  · obtain ⟨hledger, task, heq, htask⟩ := cancel_cases (s.owned.filter fun task => !s.isDone task) s
    have hledger' := hledger h.ledger
    rw [heq] at hledger' ⊢
    refine ⟨⟨hledger'.silent, hledger'.logged, hledger'.known⟩, h.unlogged, h.few, ?_, h.waiter,
      h.pending, ?_, hfinished, ?_, ?_, ?_⟩
    · intro hunset
      exact absurd (hunset.symm.trans hfinished) Bool.false_ne_true
    · exact (congrArg Option.isSome (htask s.current).1).trans h.current
    · exact fun other hmem => (List.mem_filter.mp hmem).1
    · intro other hmem
      by_cases hdone : s.isDone other = true
      · right
        refine ⟨(congrArg Option.isSome (htask other).1).trans hdone, fun hraised => ?_⟩
        have hraised' := (congrArg (Option.any Outcome.isRaised) (htask other).1).symm.trans hraised
        exact (htask other).2.1.trans (hsettled other hmem hraised')
      · left
        exact List.mem_filter.mpr ⟨hmem, by simpa using hdone⟩
    · intro other hmem hne
      obtain ⟨howned, hrunning⟩ := hleft other hmem hne
      exact (htask other).2.2 (.inr (List.mem_filter.mpr ⟨howned, by simpa using hrunning⟩))

theorem Inv.cancelPendingTasks (h : Inv s) (hstep : s.cancelPendingTasks = some s') : Inv s' := by
  unfold State.cancelPendingTasks at hstep
  split at hstep
  · next hphase =>
    obtain rfl := Option.some.inj hstep
    have hok := h.phaseOk
    rw [State.PhaseOk, hphase] at hok
    rw [show State.logDone = State.logOutcome from funext fun s => funext (logDone_eq s)]
    generalize hbegin : { s with
      left := (s.backgroundTasks.filterMap id).filter fun task => !s.isDone task } = begun
    have hinv : Inv begun := by
      subst hbegin
      refine h.moved h.waiter h.pending ?_
      unfold State.PhaseOk
      simp only [hphase]
      exact hok
    have hphase' : begun.phase = .returned := hbegin ▸ hphase
    have hfinished : begun.finished = true := hbegin ▸ hok
    have howned : begun.owned = s.owned := by rw [← hbegin]; rfl
    obtain ⟨hinv', hmarks, hsettled⟩ := hinv.logOutcomes s.owned (by simp [hphase']) hfinished
      fun _ hmem => howned ▸ hmem
    refine hinv'.cancelPending (hmarks.finished.trans hfinished)
      (fun task hmem => hsettled task (howned ▸ hmarks.owned ▸ hmem)) ?_
    intro task hmem hne
    rw [hmarks.left] at hmem
    rw [hmarks.current] at hne
    rw [hmarks.owned, hmarks.isDone]
    subst hbegin
    obtain ⟨hbackground, hrunning⟩ := List.mem_filter.mp hmem
    refine ⟨mem_owned.mpr ⟨by simpa using hbackground, hne⟩, ?_⟩
    exact Bool.not_eq_true' _ |>.mp hrunning
  · cases hstep

theorem Inv.finishCleanup (h : Inv s) {pending : List Nat} (hphase : s.phase = .gathering pending) :
    Inv (s.finishCleanup pending) := by
  have hok := h.phaseOk
  rw [State.PhaseOk, hphase] at hok
  obtain ⟨hfinished, hpending, howned, hcancelled⟩ := hok
  obtain ⟨hinv, hmarks, hsettled⟩ := h.logOutcomes pending (by simp [hphase]) hfinished hpending
  refine hinv.moved hinv.waiter hinv.pending ⟨hmarks.finished.trans hfinished, ?_, ?_⟩
  · intro task hmem
    obtain hwaited | ⟨-, hold⟩ := howned task (hmarks.owned ▸ hmem)
    · exact hsettled task hwaited
    · exact hmarks.settled hold
  · intro task hmem hne
    exact (hmarks.cancelRequested task).trans
      (hcancelled task (hmarks.left ▸ hmem) (hmarks.current ▸ hne))

theorem Inv.gathered (h : Inv s) (hstep : s.gathered = some s') : Inv s' := by
  unfold State.gathered at hstep
  split at hstep
  · next pending hphase =>
    split at hstep
    · obtain rfl := Option.some.inj hstep
      exact h.finishCleanup hphase
    · cases hstep
  · cases hstep

theorem Inv.timedOut (h : Inv s) (hstep : s.timedOut = some s') : Inv s' := by
  unfold State.timedOut at hstep
  split at hstep
  · next pending hphase =>
    obtain rfl := Option.some.inj hstep
    have hwarned : Inv { s with
        warnings := s.warnings ++ [pending.countP fun task => !s.isDone task] } := by
      refine h.moved h.waiter h.pending ?_
      exact h.phaseOk.of_tasks rfl (by simp [hphase]) id rfl rfl rfl (fun _ hold => hold)
        fun _ hdone hold => ⟨hdone, hold⟩
    exact hwarned.finishCleanup hphase
  · cases hstep

theorem Inv.step (h : Inv s) {label : Label} (hstep : Step s label s') : Inv s' := by
  unfold Step State.step at hstep
  by_cases hcleaned : s.phase = .cleaned
  · rw [if_pos hcleaned] at hstep
    cases hstep
  · rw [if_neg hcleaned] at hstep
    cases label with
    | ends task outcome => exact h.ends hcleaned hstep
    | set =>
        obtain rfl := Option.some.inj hstep
        exact h.set hcleaned
    | waiterEnds => exact h.waiterEnds hcleaned hstep
    | supervise => exact h.supervise hstep
    | wake done => exact h.wake hstep
    | released => exact h.released hstep
    | closed => exact h.closed hstep
    | cleanup => exact h.cancelPendingTasks hstep
    | gathered => exact h.gathered hstep
    | timedOut => exact h.timedOut hstep

theorem Inv.supervised (h : Inv s) : Supervised s where
  returns := by
    have hok := h.phaseOk
    unfold State.PhaseOk at hok
    intro hover
    generalize s.phase = phase at hok hover
    cases phase with
    | returned => exact hok
    | gathering pending => exact hok.1
    | cleaned => exact hok.1
    | entered => cases hover
    | waiting => cases hover
    | waitingFinished => cases hover
    | closing => cases hover
  once := by
    intro hphase task exc hbackground houtcome
    have hok := h.phaseOk
    rw [State.PhaseOk, hphase] at hok
    have hne : task ≠ s.current := by
      rintro rfl
      have hrunning := State.outcome_eq_none h.current
      rw [houtcome] at hrunning
      cases hrunning
    have hraised : s.raised task = true := by
      rw [State.raised, houtcome, Option.any_some, Outcome.isRaised]
    have hmarked := hok.2.1 task (mem_owned.mpr ⟨hbackground, hne⟩) hraised
    obtain ⟨outcome, finished, hother, hrecords⟩ := h.ledger.logged task hmarked
    obtain rfl := Option.some.inj (houtcome.symm.trans hother)
    exact ⟨finished, hrecords⟩
  noticed := by
    intro record hrecord hquiet
    obtain ⟨-, hraised | hearly⟩ := h.ledger.known record hrecord
    · exact absurd (hquiet.symm.trans hraised) Bool.false_ne_true
    · exact hearly.1
  single := by
    have hearlier : ∀ record ∈ s.errors, (!s.raised record.task) = true →
        (!record.finished) = true := by
      intro record hrecord hquiet
      obtain ⟨-, hraised | hearly⟩ := h.ledger.known record hrecord
      · rw [hraised] at hquiet
        cases hquiet
      · rw [hearly.1]
        rfl
    calc
      (s.errors.filter fun record => !s.raised record.task).length =
          s.errors.countP fun record => !s.raised record.task :=
        List.countP_eq_length_filter.symm
      _ ≤ s.errors.countP fun record => !record.finished := List.countP_mono_left hearlier
      _ = (s.errors.filter fun record => !record.finished).length := List.countP_eq_length_filter
      _ ≤ 1 := h.few
  quiet := by
    intro hquiet
    by_contra hsome
    obtain ⟨record, hrecord⟩ := List.exists_mem_of_ne_nil _ hsome
    obtain ⟨hbackground, hraised | hearly⟩ := h.ledger.known record hrecord
    · exact absurd ((hquiet _ hbackground).1.symm.trans hraised) Bool.false_ne_true
    · exact (hquiet _ hbackground).2 hearly.2
  cancelled := by
    have hok := h.phaseOk
    unfold State.PhaseOk at hok
    intro hover
    generalize s.phase = phase at hok hover
    cases phase with
    | gathering pending => exact hok.2.2.2
    | cleaned => exact hok.2.2
    | entered => cases hover
    | waiting => cases hover
    | waitingFinished => cases hover
    | closing => cases hover
    | returned => cases hover

/-- **Background tasks are supervised until the end.** For all background tasks, and in every order in
which they return, raise or are cancelled and in which `finished` is set. -/
theorem background_supervised (current : Nat) (backgroundTasks : List (Option Nat))
    {labels : List Label} {s : State} (hrun : Run Step (.init current backgroundTasks) labels s) :
    Supervised s := by
  have hinv : Inv s :=
    hrun.invariant (fun _ _ _ h hstep => h.step hstep) (Inv.init current backgroundTasks)
  exact hinv.supervised

/-- Two tasks end at once, and the supervisor looks at the one that has returned; the cleanup logs the
other one and a third, which raises when it is cancelled. A fourth is still running when the cleanup
times out. -/
def crash : List Label :=
  [.supervise, .ends 1 (.raised ⟨"ValueError", "command dispatch failed"⟩), .ends 2 .returned,
    .wake [2, 1], .waiterEnds, .closed, .cleanup, .ends 3 (.raised ⟨"OSError", "closed"⟩), .timedOut]

theorem crash_supervised :
    ∃ s, Run Step (.init 0 [some 1, none, some 2, some 3, some 4]) crash s ∧
      (s.phase = .cleaned ∧ s.errors.map ErrorRecord.task = [2, 1, 3] ∧ s.warnings = [1] ∧
        s.left = [3, 4]) ∧ Supervised s := by
  have hresult : ∃ s, Run Step (.init 0 [some 1, none, some 2, some 3, some 4]) crash s ∧
      (s.phase = .cleaned ∧ s.errors.map ErrorRecord.task = [2, 1, 3] ∧ s.warnings = [1] ∧
        s.left = [3, 4]) := by
    apply Run.exists_of_foldlM
    decide
  obtain ⟨s, hrun, hlog⟩ := hresult
  exact ⟨s, hrun, hlog, background_supervised 0 [some 1, none, some 2, some 3, some 4] hrun⟩

end Supervisor

end SkyWalking
