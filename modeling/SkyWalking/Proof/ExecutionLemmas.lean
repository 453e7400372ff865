import SkyWalking.Command.Execution
import SkyWalking.Proof.DispatchLemmas
import SkyWalking.Proof.ProfileServiceLemmas

/-!
# Commands that end the dispatch loop

As long as the dispatcher meets no command it cannot execute, the steps are those of the command service,
and what was executed is what was passed to `add_profile_task`.
-/

namespace SkyWalking

namespace CommandService

variable {s s' : State}

/-- A step logs at most one test. -/
inductive Logged (s : State) (action : Action) (s' : State) : Prop where
  | none : s'.tests = s.tests → Logged s action s'
  | dispatch (receipt : Receipt) :
      action = .dispatcher → s.dispatcher = .took receipt →
      s'.tests = (s.logTest .dispatch receipt).tests → Logged s action s'
  | reception (index : Nat) (receiver : Receiver) (receipt : Receipt) :
      action = .receiver index → s.receivers[index]? = some receiver → receiver.stage = .read receipt →
      s'.tests = (s.logTest .reception receipt).tests → Logged s action s'

theorem tests_of_read {index : Nat} {receiver : Receiver} {receipt : Receipt}
    (hreceiver : s.receivers[index]? = some receiver) (hstage : receiver.stage = .read receipt)
    (hstep : step s (.receiver index) = some s') :
    s'.tests = (s.logTest .reception receipt).tests := by
  simp only [step, hreceiver, State.receiverStep, hstage] at hstep
  split at hstep
  · obtain rfl := Option.some.inj hstep
    rfl
  · obtain rfl := Option.some.inj hstep
    rfl

theorem logged_of_step {action : Action} (hstep : step s action = some s') : Logged s action s' := by
  cases action with
  | receiveCommand batch =>
      obtain rfl := Option.some.inj hstep
      exact .none rfl
  | receiver index =>
      cases hreceiver : s.receivers[index]? with
      | none => simp [step, hreceiver] at hstep
      | some receiver =>
          cases hstage : receiver.stage with
          | next =>
              simp only [step, hreceiver, State.receiverStep, hstage] at hstep
              split at hstep
              · cases hstep
              · split at hstep
                · obtain rfl := Option.some.inj hstep
                  exact .none rfl
                · obtain rfl := Option.some.inj hstep
                  exact .none rfl
          | read receipt =>
              have htests := tests_of_read hreceiver hstage hstep
              exact .reception index receiver receipt rfl hreceiver hstage htests
          | passed receipt =>
              simp only [step, hreceiver, State.receiverStep, hstage] at hstep
              split at hstep
              · obtain rfl := Option.some.inj hstep
                exact .none rfl
              · obtain rfl := Option.some.inj hstep
                exact .none rfl
  | dispatcher =>
      cases transition_of_step hstep with
      | take | execute | add => exact .none rfl
      | drop receipt htook => exact .dispatch receipt rfl htook rfl
      | clear receipt htook => exact .dispatch receipt rfl htook rfl

/-- The receivers leave the dispatcher alone. -/
theorem dispatcher_of_step {action : Action} (hstep : step s action = some s')
    (hother : action ≠ .dispatcher) :
    s'.dispatcher = s.dispatcher ∧ s'.executed = s.executed := by
  cases transition_of_step hstep with
  | call | unsupported | read | skip | pass | put => exact ⟨rfl, rfl⟩
  | take | drop | clear | execute | add => exact absurd rfl hother

theorem dispatcherStep_of_passed {receipt : Receipt} (hpassed : s.dispatcher = .passed receipt) :
    step s .dispatcher =
      some { s with executed := s.executed ++ [receipt], dispatcher := .ran receipt } := by
  simp only [step, State.dispatcherStep, hpassed]

theorem executed_of_dispatcher (hstep : step s .dispatcher = some s')
    (hnot : ∀ receipt, s.dispatcher ≠ .passed receipt) : s'.executed = s.executed := by
  cases transition_of_step hstep with
  | take | drop | clear | add => rfl
  | execute receipt hpassed => exact absurd hpassed (hnot receipt)

theorem recorded_eq (hnot : ∀ receipt, s.dispatcher ≠ .ran receipt) : s.recorded = s.executed := by
  unfold State.recorded
  split
  · next receipt hran => exact absurd hran (hnot receipt)
  · rfl

end CommandService

namespace ProfileTaskCommandExecutor

open CommandService (Receipt)

variable {limit : Nat} {mode : CommandService.Mode} {s s' : State}

/-- A timer and the profile thread add no task. -/
theorem tasks_of_step {t t' : ProfileTaskExecutionService.State}
    {action : ProfileTaskExecutionService.Action}
    (hstep : ProfileTaskExecutionService.step t action = some t')
    (hadd : ∀ task, action ≠ .addProfileTask task) : t'.tasks = t.tasks := by
  cases ProfileTaskExecutionService.transition_of_step hstep with
  | add task => exact absurd rfl (hadd task)
  | put | start | replace | late | stop | drained | drop | drain | refill | finish | handOver => rfl

/-- What a step does. -/
inductive Transition (limit : Nat) (s : State) : Action → State → Prop where
  | service (action : Action) (operation : CommandService.Action) (service : CommandService.State) :
      action.service = some operation →
      (operation = .dispatcher → s.ended = false ∧ ∀ receipt, s.service.dispatcher ≠ .passed receipt) →
      CommandService.step s.service operation = some service →
      Transition limit s action { s with service := service }
  | malformed (now : Int) (receipt : Receipt) :
      s.service.dispatcher = .passed receipt → s.ended = false →
      ProfileTask.ofCommand limit receipt.command = none →
      Transition limit s (.dispatcher now) s.fail
  | check (now : Int) (receipt : Receipt) (task : ProfileTask) :
      s.service.dispatcher = .passed receipt → s.ended = false → s.putting = none →
      ProfileTask.ofCommand limit receipt.command = some task →
      Transition limit s (.dispatcher now) { s with
        profile := s.profile.addProfileTask task
        putting := some s.profile.tasks.length }
  | reject (now : Int) (receipt : Receipt) (task : ProfileTask) :
      s.service.dispatcher = .passed receipt → s.ended = false → s.putting = none →
      ProfileTask.ofCommand limit receipt.command = some task →
      Transition limit s (.dispatcher now) { s with
        profile := s.profile.addProfileTask task
        putting := none
        service := { s.service with
          executed := s.service.executed ++ [receipt]
          dispatcher := .ran receipt } }
  | put (now : Int) (receipt : Receipt) (task : ProfileTask) (number : Nat) :
      s.service.dispatcher = .passed receipt → s.ended = false → s.putting = some number →
      ProfileTask.ofCommand limit receipt.command = some task →
      Scheduler.overflows (task.startTime - now) = false →
      Transition limit s (.dispatcher now) { s with
        profile := s.profile.putTask number
        putting := none
        service := { s.service with
          executed := s.service.executed ++ [receipt]
          dispatcher := .ran receipt } }
  | overflow (now : Int) (receipt : Receipt) (task : ProfileTask) (number : Nat)
      (profile : ProfileTaskExecutionService.State) :
      s.service.dispatcher = .passed receipt → s.ended = false → s.putting = some number →
      ProfileTask.ofCommand limit receipt.command = some task →
      Scheduler.overflows (task.startTime - now) = true →
      Transition limit s (.dispatcher now)
        (State.fail { s with profile := profile, putting := none })
  | profile (action : ProfileTaskExecutionService.Action)
      (profile : ProfileTaskExecutionService.State) :
      profile.tasks = s.profile.tasks →
      Transition limit s (.profile action) { s with profile := profile }

theorem transition_of_execute {now : Int} {receipt : Receipt}
    (hpassed : s.service.dispatcher = .passed receipt) (halive : s.ended = false)
    (hstep : s.execute limit now receipt = some s') : Transition limit s (.dispatcher now) s' := by
  have hran : ∀ s₁ : State, s₁.service = s.service → s₁.onService .dispatcher = some s' →
      s' = { s₁ with
        service := { s.service with
          executed := s.service.executed ++ [receipt]
          dispatcher := .ran receipt } } := by
    intro s₁ hservice hnext
    obtain ⟨service, hservice', rfl⟩ := Option.map_eq_some_iff.mp hnext
    rw [hservice, CommandService.dispatcherStep_of_passed hpassed] at hservice'
    rw [← Option.some.inj hservice']
  unfold State.execute at hstep
  cases htask : ProfileTask.ofCommand limit receipt.command with
  | none =>
      simp only [htask] at hstep
      obtain rfl := Option.some.inj hstep
      exact .malformed now receipt hpassed halive htask
  | some task =>
      cases hputting : s.putting with
      | none =>
          simp only [htask, hputting, State.addProfileTask] at hstep
          split at hstep
          · obtain rfl := Option.some.inj hstep
            exact .check now receipt task hpassed halive hputting htask
          · rw [hran _ (by rfl) hstep]
            exact .reject now receipt task hpassed halive hputting htask
      | some number =>
          simp only [htask, hputting, State.putTask] at hstep
          split at hstep
          · next hoverflow =>
              obtain rfl := Option.some.inj hstep
              exact .overflow now receipt task number _ hpassed halive hputting htask hoverflow
          · next hfits =>
              rw [hran _ (by rfl) hstep]
              exact .put now receipt task number hpassed halive hputting htask (by simpa using hfits)

theorem transition_of_step {action : Action} (hstep : step limit s action = some s') :
    Transition limit s action s' := by
  cases action with
  | receiveCommand batch =>
      replace hstep : s.onService (.receiveCommand batch) = some s' := hstep
      obtain ⟨service, hservice, rfl⟩ := Option.map_eq_some_iff.mp hstep
      exact .service _ _ service rfl (fun h => by cases h) hservice
  | receiver index =>
      replace hstep : s.onService (.receiver index) = some s' := hstep
      obtain ⟨service, hservice, rfl⟩ := Option.map_eq_some_iff.mp hstep
      exact .service _ _ service rfl (fun h => by cases h) hservice
  | dispatcher now =>
      simp only [step] at hstep
      split at hstep
      · cases hstep
      · next halive =>
          have halive : s.ended = false := by simpa using halive
          split at hstep
          · next receipt hpassed => exact transition_of_execute hpassed halive hstep
          · next hnot =>
              obtain ⟨service, hservice, rfl⟩ := Option.map_eq_some_iff.mp hstep
              exact .service _ _ service rfl (fun _ => ⟨halive, hnot⟩) hservice
  | profile action =>
      have hmap : (∀ task, action ≠ .addProfileTask task) →
          (ProfileTaskExecutionService.step s.profile action).map
            (fun profile => { s with profile := profile }) = some s' →
          Transition limit s (.profile action) s' := by
        intro hadd hnext
        obtain ⟨profile, hprofile, rfl⟩ := Option.map_eq_some_iff.mp hnext
        exact .profile action profile (tasks_of_step hprofile hadd)
      cases action with
      | addProfileTask task | putTask task => cases hstep
      | processProfileTask task | stopCurrentProfileTask needStop | removalStep =>
          exact hmap (fun _ h => by cases h) hstep

/-- Every skipped command had a serial number among the last 64 executed. -/
def State.SkipsOnlyExecuted (s : State) : Prop :=
  ∀ test ∈ s.service.tests, test.skipped = true →
    test.receipt.serialNumber ∈ (test.executed.map Receipt.serialNumber).rtake 64

structure Sound (limit : Nat) (mode : CommandService.Mode) (s : State) : Prop where
  alive : s.ended = false
  run : ∃ operations, Run (CommandService.Step mode) CommandService.State.init operations s.service
  putting : s.putting.isSome → ∃ receipt, s.service.dispatcher = .passed receipt
  passed : (s.service.executed ++ s.current).map (fun receipt =>
    ProfileTask.ofCommand limit receipt.command) = s.profile.tasks.map some
  skipped : s.SkipsOnlyExecuted

theorem Sound.init : Sound limit mode State.init := by
  refine ⟨rfl, ⟨[], .nil _⟩, fun h => (by cases h), rfl, ?_⟩
  intro test htest
  cases htest

theorem Sound.recorded (h : Sound limit mode s) : CommandService.Recorded s.service := by
  obtain ⟨operations, hrun⟩ := h.run
  exact (CommandService.invariants_of_run hrun).2

theorem mem_append_test {tests : List CommandService.Test} {P : CommandService.Test → Prop}
    {last : CommandService.Test} :
    (∀ test ∈ tests ++ [last], P test) ↔ (∀ test ∈ tests, P test) ∧ P last := by
  simp only [List.mem_append, List.mem_singleton]
  constructor
  · intro h
    exact ⟨fun test htest => h test (.inl htest), h last (.inr rfl)⟩
  · rintro ⟨hold, hlast⟩ test (htest | rfl)
    · exact hold test htest
    · exact hlast

/-- What a step of the command service skips. -/
theorem skipsOnlyExecuted_of_step (hrecorded : CommandService.Recorded s.service)
    (hskipped : s.SkipsOnlyExecuted) (action : Action) {operation : CommandService.Action}
    {service : CommandService.State} (hoperation : action.service = some operation)
    (hupToDate : s.UpToDate action)
    (hstep : CommandService.step s.service operation = some service) :
    State.SkipsOnlyExecuted { s with service := service } := by
  unfold State.SkipsOnlyExecuted at hskipped ⊢
  have hsame : ∀ receipt, s.service.recorded = s.service.executed →
      s.service.isCommandExecuted receipt = true →
      receipt.serialNumber ∈ (s.service.executed.map Receipt.serialNumber).rtake 64 := by
    intro receipt hrecord hexecuted
    rw [← hrecord]
    exact (hrecorded.isCommandExecuted_iff receipt).mp hexecuted
  cases CommandService.logged_of_step hstep with
  | none htests =>
      rw [htests]
      exact hskipped
  | dispatch receipt haction htook htests =>
      rw [htests]
      refine mem_append_test.mpr ⟨hskipped, ?_⟩
      exact hsame receipt (CommandService.recorded_of_took htook)
  | reception index receiver receipt haction hreceiver hstage htests =>
      rw [htests]
      refine mem_append_test.mpr ⟨hskipped, ?_⟩
      subst haction
      have hindex : action = .receiver index := by
        cases action with
        | receiver other =>
            obtain rfl := CommandService.Action.receiver.inj (Option.some.inj hoperation)
            rfl
        | receiveCommand | dispatcher | profile => cases hoperation
      subst hindex
      cases hdispatcher : s.service.dispatcher with
      | ran last =>
          intro hexecuted
          have hrecord : s.service.recorded = s.service.executed.dropLast := by
            simp only [CommandService.State.recorded, hdispatcher]
          have hwindow := (hrecorded.isCommandExecuted_iff receipt).mp hexecuted
          rw [hrecord] at hwindow
          exact hupToDate receiver receipt last hreceiver hstage hdispatcher hwindow
      | waiting | took | passed =>
          refine hsame receipt (CommandService.recorded_eq ?_)
          intro last hran
          rw [hdispatcher] at hran
          cases hran

theorem current_of_putting (h : s.putting = none) : s.current = [] := by
  simp [State.current, h]

theorem current_of_passed {receipt : Receipt} {number : Nat} (hputting : s.putting = some number)
    (hpassed : s.service.dispatcher = .passed receipt) : s.current = [receipt] := by
  simp [State.current, hputting, hpassed, CommandService.Dispatcher.held]

theorem Sound.service (h : Sound limit mode s) {action : Action} {operation : CommandService.Action}
    {service : CommandService.State} (hoperation : action.service = some operation)
    (hidle : operation = .dispatcher →
      s.ended = false ∧ ∀ receipt, s.service.dispatcher ≠ .passed receipt)
    (hschedulable : Schedulable mode s action) (hupToDate : s.UpToDate action)
    (hstep : CommandService.step s.service operation = some service) :
    Sound limit mode { s with service := service } := by
  obtain ⟨operations, hrun⟩ := h.run
  have hkept : service.executed = s.service.executed ∧
      (s.putting.isSome → service.dispatcher = s.service.dispatcher) := by
    by_cases hdispatcher : operation = .dispatcher
    · subst hdispatcher
      have hnot := (hidle rfl).2
      refine ⟨CommandService.executed_of_dispatcher hstep hnot, ?_⟩
      intro hputting
      obtain ⟨receipt, hpassed⟩ := h.putting hputting
      exact absurd hpassed (hnot receipt)
    · obtain ⟨hsame, hexecuted⟩ := CommandService.dispatcher_of_step hstep hdispatcher
      exact ⟨hexecuted, fun _ => hsame⟩
  refine ⟨h.alive, ⟨_, hrun.snoc ⟨hschedulable operation hoperation, hstep⟩⟩, ?_, ?_,
    skipsOnlyExecuted_of_step h.recorded h.skipped _ hoperation hupToDate hstep⟩
  · intro hputting
    obtain ⟨receipt, hpassed⟩ := h.putting hputting
    exact ⟨receipt, (hkept.2 hputting).trans hpassed⟩
  · have hcurrent : State.current { s with service := service } = s.current := by
      unfold State.current
      split
      · next hputting => rw [hkept.2 hputting]
      · rfl
    rw [hcurrent]
    simp only [hkept.1]
    exact h.passed

/-- The execution is over; its task was passed to `add_profile_task`. -/
theorem Sound.ran (h : Sound limit mode s) {now : Int} {receipt : Receipt} {task : ProfileTask}
    {profile : ProfileTaskExecutionService.State} (hschedulable : Schedulable mode s (.dispatcher now))
    (hpassed : s.service.dispatcher = .passed receipt)
    (htask : ProfileTask.ofCommand limit receipt.command = some task)
    (hcurrent : (s.putting = none ∧ profile.tasks = s.profile.tasks ++ [task]) ∨
      (∃ number, s.putting = some number) ∧ profile.tasks = s.profile.tasks) :
    Sound limit mode { s with
      profile := profile
      putting := none
      service := { s.service with
        executed := s.service.executed ++ [receipt]
        dispatcher := .ran receipt } } := by
  obtain ⟨operations, hrun⟩ := h.run
  have hstep := CommandService.dispatcherStep_of_passed hpassed
  refine ⟨h.alive, ⟨_, hrun.snoc ⟨hschedulable .dispatcher rfl, hstep⟩⟩, fun h => (by cases h), ?_,
    skipsOnlyExecuted_of_step h.recorded h.skipped (.dispatcher now) rfl trivial hstep⟩
  have hbefore := h.passed
  rw [current_of_putting rfl, List.append_nil]
  obtain ⟨hputting, htasks⟩ | ⟨⟨number, hputting⟩, htasks⟩ := hcurrent
  · rw [current_of_putting hputting, List.append_nil] at hbefore
    rw [htasks, List.map_append, List.map_append, hbefore]
    simp only [List.map_singleton, htask]
  · rw [current_of_passed hputting hpassed] at hbefore
    rw [htasks]
    exact hbefore

theorem Sound.step (h : Sound limit mode s) {action : Action} (hexecutable : s.Executable limit action)
    (hupToDate : s.UpToDate action) (hstep : Step limit mode s action s') : Sound limit mode s' := by
  obtain ⟨hschedulable, hnext⟩ := hstep
  cases transition_of_step hnext with
  | service _ operation service hoperation hidle hservice =>
      exact h.service hoperation hidle hschedulable hupToDate hservice
  | malformed now receipt hpassed halive hnone =>
      obtain ⟨task, htask, -⟩ := hexecutable receipt hpassed
      rw [hnone] at htask
      cases htask
  | check now receipt task hpassed halive hputting htask =>
      refine ⟨h.alive, h.run, fun _ => ⟨receipt, hpassed⟩, ?_, h.skipped⟩
      have hbefore := h.passed
      rw [current_of_putting hputting, List.append_nil] at hbefore
      have hcurrent := current_of_passed (s := { s with
        profile := s.profile.addProfileTask task
        putting := some s.profile.tasks.length }) rfl hpassed
      rw [hcurrent, List.map_append, hbefore]
      simp only [List.map_singleton, htask, ProfileTaskExecutionService.State.addProfileTask,
        List.map_append]
  | reject now receipt task hpassed halive hputting htask =>
      exact h.ran hschedulable hpassed htask (.inl ⟨hputting, rfl⟩)
  | put now receipt task number hpassed halive hputting htask hfits =>
      exact h.ran hschedulable hpassed htask (.inr ⟨⟨number, hputting⟩, rfl⟩)
  | overflow now receipt task number profile hpassed halive hputting htask hoverflow =>
      obtain ⟨other, hother, hfits⟩ := hexecutable receipt hpassed
      obtain rfl := Option.some.inj (htask.symm.trans hother)
      rw [hfits (by rw [hputting]; rfl)] at hoverflow
      cases hoverflow
  | profile action profile htasks =>
      refine ⟨h.alive, h.run, h.putting, ?_, h.skipped⟩
      simp only [htasks]
      exact h.passed

theorem Sound.served (h : Sound limit mode s) : s.Served limit := by
  obtain ⟨operations, hrun⟩ := h.run
  obtain ⟨hconserved, -⟩ := CommandService.invariants_of_run hrun
  refine ⟨h.alive, ?_, CommandService.received_perm hconserved, h.passed, h.skipped⟩
  intro hwork now
  have hother : ∀ s₁ : State, s₁.service = s.service → (s₁.onService .dispatcher).isSome := by
    intro s₁ hservice
    unfold State.onService
    rw [Option.isSome_map, hservice]
    simp only [CommandService.step, CommandService.State.dispatcherStep]
    cases hdispatcher : s.service.dispatcher with
    | waiting =>
        cases hcommands : s.service.commands with
        | nil => simp [hcommands, hdispatcher] at hwork
        | cons receipt rest => rfl
    | took receipt =>
        simp only
        split <;> rfl
    | passed receipt | ran receipt => rfl
  simp only [ProfileTaskCommandExecutor.step, h.alive, Bool.false_eq_true, if_false]
  split
  · unfold State.execute
    split
    · rfl
    · split
      · unfold State.addProfileTask
        simp only
        split
        · rfl
        · exact hother _ rfl
      · unfold State.putTask
        simp only
        split
        · rfl
        · exact hother _ rfl
  · exact hother s rfl

theorem alive_of_step {action : Action} (hstep : step limit s action = some s')
    (halive : s'.ended = false) : s.ended = false := by
  cases transition_of_step hstep with
  | service | check | reject | put | profile => exact halive
  | malformed | overflow => cases halive

theorem tests_subset_of_step {action : Action} (hstep : step limit s action = some s') :
    s.service.tests ⊆ s'.service.tests := by
  cases transition_of_step hstep with
  | service _ operation service hoperation hidle hservice =>
      cases CommandService.logged_of_step hservice with
      | none htests =>
          rw [htests]
          exact List.Subset.refl _
      | dispatch receipt haction htook htests =>
          rw [htests]
          exact List.subset_append_left _ _
      | reception index receiver receipt haction hreceiver hstage htests =>
          rw [htests]
          exact List.subset_append_left _ _
  | malformed | check | reject | put | overflow | profile => exact List.Subset.refl _

theorem executable_of_step {action : Action} (hstep : step limit s action = some s')
    (halive : s'.ended = false) : s.Executable limit action := by
  cases action with
  | receiveCommand | receiver | profile => trivial
  | dispatcher now =>
      intro receipt hpassed
      have hsame : ∀ {other : Receipt}, s.service.dispatcher = .passed other → other = receipt :=
        fun hother => CommandService.Dispatcher.passed.inj (hother.symm.trans hpassed)
      cases transition_of_step hstep with
      | service _ operation service hoperation hidle hservice =>
          obtain rfl := Option.some.inj hoperation
          exact absurd hpassed ((hidle rfl).2 receipt)
      | malformed | overflow => cases halive
      | check _ other task hother _ hputting htask | reject _ other task hother _ hputting htask =>
          obtain rfl := hsame hother
          refine ⟨task, htask, ?_⟩
          rw [hputting]
          exact fun h => by cases h
      | put _ other task number hother _ hputting htask hfits =>
          obtain rfl := hsame hother
          exact ⟨task, htask, fun _ => hfits⟩

theorem upToDate_of_step (hrecorded : CommandService.Recorded s.service) {action : Action}
    (hstep : step limit s action = some s') (hskipped : s'.SkipsOnlyExecuted) : s.UpToDate action := by
  cases action with
  | receiveCommand | dispatcher | profile => trivial
  | receiver index =>
      intro receiver receipt last hreceiver hstage hran hwindow
      obtain ⟨service, hservice, rfl⟩ := Option.map_eq_some_iff.mp hstep
      unfold State.SkipsOnlyExecuted at hskipped
      rw [CommandService.tests_of_read hreceiver hstage hservice] at hskipped
      refine (mem_append_test.mp hskipped).2 ?_
      have hrecord : s.service.recorded = s.service.executed.dropLast := by
        simp only [CommandService.State.recorded, hran]
      refine (hrecorded.isCommandExecuted_iff receipt).mpr ?_
      rw [hrecord]
      exact hwindow

/-- The dispatch loop goes on and passes on every command that was not executed lately, in exactly those
runs in which it executes only what it can, and no serial number comes in just when it leaves the last
64. -/
theorem executable_runs_served (limit : Nat) (mode : CommandService.Mode) (actions : List Action)
    (s : State) :
    Run (Guarded (fun s action => s.Executable limit action ∧ s.UpToDate action) (Step limit mode))
        State.init actions s ↔
      Run (Step limit mode) State.init actions s ∧ s.Served limit := by
  have hsound : ∀ {actions : List Action} {s : State},
      Run (Guarded (fun s action => s.Executable limit action ∧ s.UpToDate action) (Step limit mode))
        State.init actions s → Sound limit mode s := by
    intro actions s hrun
    apply hrun.invariant (I := Sound limit mode)
    · intro state action next h hstep
      exact h.step hstep.1.1 hstep.1.2 hstep.2
    · exact .init
  constructor
  · intro hrun
    exact ⟨hrun.mono fun _ _ _ hstep => hstep.2, (hsound hrun).served⟩
  · rintro ⟨hrun, hserved⟩
    replace hserved : s.ended = false ∧ s.SkipsOnlyExecuted := ⟨hserved.alive, hserved.skipped⟩
    induction hrun with
    | nil => exact .nil _
    | @snoc middle next labels action hbefore hlast ih =>
        obtain ⟨halive, hskipped⟩ := hserved
        have hguarded := ih ⟨alive_of_step hlast.2 halive, fun test htest =>
          hskipped test (tests_subset_of_step hlast.2 htest)⟩
        refine hguarded.snoc ⟨⟨executable_of_step hlast.2 halive, ?_⟩, hlast⟩
        exact upToDate_of_step (hsound hguarded).recorded hlast.2 hskipped

/-- A command without arguments, and after it one that is as it should be. -/
def malformedFirst : List Command :=
  [⟨ProfileTaskCommand.name, []⟩,
    ⟨ProfileTaskCommand.name,
      [⟨"SerialNumber", "1"⟩, ⟨"TaskId", "1"⟩, ⟨"EndpointName", "/users"⟩, ⟨"Duration", "1"⟩,
        ⟨"MinDurationThreshold", "0"⟩, ⟨"DumpPeriod", "10"⟩, ⟨"MaxSamplingCount", "5"⟩,
        ⟨"StartTime", "0"⟩, ⟨"CreateTime", "0"⟩]⟩]

theorem malformedFirst_not_served : ¬ ∀ (limit : Nat) (mode : CommandService.Mode)
    (actions : List Action) (s : State),
    Run (Step limit mode) State.init actions s → s.Served limit := by
  intro hall
  have hresult : ∃ s, Run (fun s action s' => step 4300 s action = some s') State.init
      ([.receiveCommand malformedFirst] ++ List.replicate 6 (.receiver 0) ++
        List.replicate 3 (.dispatcher 0)) s ∧ s.ended = true := by
    apply Run.exists_of_foldlM
    decide +kernel
  obtain ⟨s, hrun, hended⟩ := hresult
  have hsync : Run (Step 4300 .sync) State.init _ s :=
    hrun.mono fun _ _ _ hstep => ⟨fun _ _ => trivial, hstep⟩
  rw [(hall 4300 .sync _ s hsync).alive] at hended
  cases hended

end ProfileTaskCommandExecutor

end SkyWalking
