import Mathlib
import SkyWalking.Command.Dispatch
import SkyWalking.Lib.Slot

/-!
# Every received command is executed once, queued or skipped

The cache holds the serial numbers of the last 64 recorded executions. The dispatcher is the only party
that executes and records, so nothing is executed between its test and its execution.
-/

namespace SkyWalking.CommandService

@[simp]
theorem setReceiver_skipped (s : State) (index : Nat) (receiver : Receiver) (place : Place) :
    (s.setReceiver index receiver).skipped place = s.skipped place := rfl

/-- What one step does, with the facts it was guarded by. -/
inductive Transition (s : State) : Action → State → Prop where
  | call (batch : List Command) :
      Transition s (.receiveCommand batch) { s with receivers := s.receivers ++ [⟨batch, .next⟩] }
  | unsupported (index : Nat) (receiver : Receiver) (rest : List Command) :
      s.receivers[index]? = some receiver → receiver.held = [] →
      Transition s (.receiver index) (s.setReceiver index ⟨rest, .next⟩)
  | read (index : Nat) (receiver : Receiver) (rest : List Command) (command : ProfileTaskCommand) :
      s.receivers[index]? = some receiver → receiver.held = [] →
      Transition s (.receiver index) { s.setReceiver index ⟨rest, .read ⟨s.received.length, command⟩⟩ with
        received := s.received ++ [⟨s.received.length, command⟩] }
  | skip (index : Nat) (receiver : Receiver) (receipt : Receipt) :
      s.receivers[index]? = some receiver → receiver.held = [receipt] →
      s.isCommandExecuted receipt = true →
      Transition s (.receiver index)
        ((s.logTest .reception receipt).setReceiver index ⟨receiver.batch, .next⟩)
  | pass (index : Nat) (receiver : Receiver) (receipt : Receipt) :
      s.receivers[index]? = some receiver → receiver.held = [receipt] →
      s.isCommandExecuted receipt = false →
      Transition s (.receiver index)
        ((s.logTest .reception receipt).setReceiver index ⟨receiver.batch, .passed receipt⟩)
  | put (index : Nat) (receiver : Receiver) (receipt : Receipt) :
      s.receivers[index]? = some receiver → receiver.held = [receipt] →
      Transition s (.receiver index) { s.setReceiver index ⟨receiver.batch, .next⟩ with
        commands := s.commands ++ [receipt]
        enqueued := s.enqueued ++ [receipt] }
  | take (receipt : Receipt) (rest : List Receipt) :
      s.dispatcher = .waiting → s.commands = receipt :: rest →
      Transition s .dispatcher { s with commands := rest, dispatcher := .took receipt }
  | drop (receipt : Receipt) :
      s.dispatcher = .took receipt → s.isCommandExecuted receipt = true →
      Transition s .dispatcher { s.logTest .dispatch receipt with dispatcher := .waiting }
  | clear (receipt : Receipt) :
      s.dispatcher = .took receipt → s.isCommandExecuted receipt = false →
      Transition s .dispatcher { s.logTest .dispatch receipt with dispatcher := .passed receipt }
  | execute (receipt : Receipt) :
      s.dispatcher = .passed receipt →
      Transition s .dispatcher
        { s with executed := s.executed ++ [receipt], dispatcher := .ran receipt }
  | add (receipt : Receipt) :
      s.dispatcher = .ran receipt →
      Transition s .dispatcher
        { s with cache := s.cache.add receipt.serialNumber, dispatcher := .waiting }

theorem transition_of_receiverStep {s s' : State} {index : Nat} {receiver : Receiver}
    (hreceiver : s.receivers[index]? = some receiver)
    (hstep : s.receiverStep index receiver = some s') : Transition s (.receiver index) s' := by
  obtain ⟨batch, stage⟩ := receiver
  unfold State.receiverStep at hstep
  cases stage with
  | next =>
      cases batch with
      | nil => simp at hstep
      | cons command rest =>
          cases hread : CommandDeserializer.deserialize command with
          | error _ =>
              simp only [hread, Option.some.injEq] at hstep
              subst hstep
              exact .unsupported index _ rest hreceiver rfl
          | ok baseCommand =>
              simp only [hread, Option.some.injEq] at hstep
              subst hstep
              exact .read index _ rest baseCommand hreceiver rfl
  | read receipt =>
      by_cases htest : s.isCommandExecuted receipt = true
      · simp only [htest, if_true, Option.some.injEq] at hstep
        subst hstep
        exact .skip index _ receipt hreceiver rfl htest
      · simp only [htest, Bool.false_eq_true, if_false, Option.some.injEq] at hstep
        subst hstep
        exact .pass index _ receipt hreceiver rfl (by simpa using htest)
  | passed receipt =>
      simp only [Queue.put, Queue.full, lt_irrefl, decide_false, Bool.false_and, Bool.false_eq_true,
        if_false, Option.some.injEq] at hstep
      subst hstep
      exact .put index _ receipt hreceiver rfl

theorem transition_of_dispatcherStep {s s' : State} (hstep : s.dispatcherStep = some s') :
    Transition s .dispatcher s' := by
  unfold State.dispatcherStep at hstep
  cases hdispatcher : s.dispatcher with
  | waiting =>
      cases hcommands : s.commands with
      | nil => simp [hdispatcher, hcommands] at hstep
      | cons receipt rest =>
          simp only [hdispatcher, hcommands, Option.some.injEq] at hstep
          subst hstep
          exact .take receipt rest hdispatcher hcommands
  | took receipt =>
      by_cases htest : s.isCommandExecuted receipt = true
      · simp only [hdispatcher, htest, if_true, Option.some.injEq] at hstep
        subst hstep
        exact .drop receipt hdispatcher htest
      · simp only [hdispatcher, htest, Bool.false_eq_true, if_false, Option.some.injEq] at hstep
        subst hstep
        exact .clear receipt hdispatcher (by simpa using htest)
  | passed receipt =>
      simp only [hdispatcher, Option.some.injEq] at hstep
      subst hstep
      exact .execute receipt hdispatcher
  | ran receipt =>
      simp only [hdispatcher, Option.some.injEq] at hstep
      subst hstep
      exact .add receipt hdispatcher

theorem transition_of_step {s s' : State} {action : Action} (hstep : step s action = some s') :
    Transition s action s' := by
  cases action with
  | receiveCommand batch =>
      simp only [step, Option.some.injEq] at hstep
      subst hstep
      exact .call batch
  | receiver index =>
      cases hreceiver : s.receivers[index]? with
      | none => simp [step, hreceiver] at hstep
      | some receiver =>
          simp only [step, hreceiver] at hstep
          exact transition_of_receiverStep hreceiver hstep
  | dispatcher => exact transition_of_dispatcherStep hstep

/-- Where each received command is, counted. -/
structure Conserved (s : State) : Prop where
  numbered : s.received.map Receipt.number = List.range s.received.length
  received : ∀ receipt, s.received.count receipt =
    (s.receivers.flatMap Receiver.held).count receipt + (s.skipped .reception).count receipt +
      s.enqueued.count receipt
  taken : ∃ taken, s.enqueued = taken ++ s.commands ∧
    (∀ receipt, taken.count receipt = s.dispatcher.held.count receipt +
      s.executed.count receipt + (s.skipped .dispatch).count receipt) ∧
    (s.executed ++ s.dispatcher.held).Sublist taken

@[simp]
theorem held_next (batch : List Command) : (⟨batch, .next⟩ : Receiver).held = [] := rfl

@[simp]
theorem held_read (batch : List Command) (receipt : Receipt) :
    (⟨batch, .read receipt⟩ : Receiver).held = [receipt] := rfl

@[simp]
theorem held_passed (batch : List Command) (receipt : Receipt) :
    (⟨batch, .passed receipt⟩ : Receiver).held = [receipt] := rfl

theorem held_count_set {s : State} {index : Nat} {receiver : Receiver} {before : List Receipt}
    (hreceiver : s.receivers[index]? = some receiver) (hbefore : receiver.held = before)
    (receiver' : Receiver) (receipt : Receipt) :
    ((s.receivers.set index receiver').flatMap Receiver.held).count receipt + before.count receipt =
      (s.receivers.flatMap Receiver.held).count receipt + receiver'.held.count receipt := by
  rw [← List.count_append, ← List.count_append, ← hbefore]
  exact (Slot.flatMap_set_perm hreceiver receiver' Receiver.held).count_eq receipt

theorem skipped_logTest (s : State) (place other : Place) (receipt : Receipt) :
    (s.logTest place receipt).skipped other =
      s.skipped other ++
        if s.isCommandExecuted receipt = true ∧ place = other then [receipt] else [] := by
  by_cases hskip : s.isCommandExecuted receipt = true ∧ place = other
  · simp [State.skipped, State.logTest, List.filter_append, hskip]
  · rw [if_neg hskip]
    simp only [State.skipped, State.logTest, List.filter_append, List.map_append]
    congr 1
    simpa using hskip

theorem Conserved.init : Conserved State.init := by
  refine ⟨by simp [State.init], ?_, [], by simp [State.init], ?_, by simp [State.init, Dispatcher.held]⟩
  · intro receipt
    simp [State.init, State.skipped]
  · intro receipt
    simp [State.init, State.skipped, Dispatcher.held]

theorem Conserved.receiving {s s' : State} (hconserved : Conserved s)
    (hnumbered : s'.received.map Receipt.number = List.range s'.received.length)
    (hreceived : ∀ receipt, s'.received.count receipt =
      (s'.receivers.flatMap Receiver.held).count receipt +
        (s'.skipped .reception).count receipt + s.enqueued.count receipt)
    (henqueued : s'.enqueued = s.enqueued) (hcommands : s'.commands = s.commands)
    (hdispatcher : s'.dispatcher = s.dispatcher) (hexecuted : s'.executed = s.executed)
    (hskipped : s'.skipped .dispatch = s.skipped .dispatch) : Conserved s' := by
  obtain ⟨taken, htaken, hcount, horder⟩ := hconserved.taken
  refine ⟨hnumbered, ?_, taken, ?_, ?_, ?_⟩
  · rw [henqueued]
    exact hreceived
  · rw [henqueued, hcommands, htaken]
  · rw [hdispatcher, hexecuted, hskipped]
    exact hcount
  · rw [hdispatcher, hexecuted]
    exact horder

theorem Conserved.dispatching {s s' : State} (hconserved : Conserved s)
    (hreceived : s'.received = s.received) (hreceivers : s'.receivers = s.receivers)
    (henqueued : s'.enqueued = s.enqueued)
    (hskipped : s'.skipped .reception = s.skipped .reception)
    (htaken : ∃ taken, s.enqueued = taken ++ s'.commands ∧
      (∀ receipt, taken.count receipt = s'.dispatcher.held.count receipt +
        s'.executed.count receipt + (s'.skipped .dispatch).count receipt) ∧
      (s'.executed ++ s'.dispatcher.held).Sublist taken) : Conserved s' := by
  refine ⟨?_, ?_, ?_⟩
  · rw [hreceived]
    exact hconserved.numbered
  · rw [hreceived, hreceivers, henqueued, hskipped]
    exact hconserved.received
  · rw [henqueued]
    exact htaken

theorem Conserved.transition {s s' : State} {action : Action} (hconserved : Conserved s)
    (h : Transition s action s') : Conserved s' := by
  cases h with
  | call batch =>
      refine hconserved.receiving hconserved.numbered ?_ rfl rfl rfl rfl rfl
      intro receipt
      simpa [List.flatMap_append, Receiver.held, State.skipped] using hconserved.received receipt
  | unsupported index receiver rest hreceiver hheld =>
      refine hconserved.receiving hconserved.numbered ?_ rfl rfl rfl rfl rfl
      intro receipt
      have hset := held_count_set hreceiver hheld ⟨rest, .next⟩ receipt
      have hbefore := hconserved.received receipt
      change s.received.count receipt =
        ((s.receivers.set index ⟨rest, .next⟩).flatMap Receiver.held).count receipt +
          (s.skipped .reception).count receipt + _
      rw [held_next] at hset
      omega
  | read index receiver rest command hreceiver hheld =>
      refine hconserved.receiving ?_ ?_ rfl rfl rfl rfl rfl
      · simp [hconserved.numbered, List.range_succ]
      · intro receipt
        have hset := held_count_set hreceiver hheld ⟨rest, .read ⟨s.received.length, command⟩⟩ receipt
        have hbefore := hconserved.received receipt
        rw [List.count_append]
        change _ = ((s.receivers.set index ⟨rest, .read ⟨s.received.length, command⟩⟩).flatMap
          Receiver.held).count receipt + (s.skipped .reception).count receipt + _
        simp only [held_read, List.count_nil] at hset
        omega
  | skip index receiver receipt hreceiver hheld htest =>
      refine hconserved.receiving hconserved.numbered ?_ rfl rfl rfl rfl ?_
      · intro other
        have hset := held_count_set hreceiver hheld ⟨receiver.batch, .next⟩ other
        have hbefore := hconserved.received other
        rw [setReceiver_skipped, skipped_logTest, if_pos ⟨htest, rfl⟩, List.count_append]
        change s.received.count other =
          ((s.receivers.set index ⟨receiver.batch, .next⟩).flatMap Receiver.held).count other + _ + _
        simp only [held_next, List.count_nil] at hset
        omega
      · rw [setReceiver_skipped, skipped_logTest, if_neg (by simp), List.append_nil]
  | pass index receiver receipt hreceiver hheld htest =>
      refine hconserved.receiving hconserved.numbered ?_ rfl rfl rfl rfl ?_
      · intro other
        have hset := held_count_set hreceiver hheld ⟨receiver.batch, .passed receipt⟩ other
        have hbefore := hconserved.received other
        rw [setReceiver_skipped, skipped_logTest, if_neg (by simp [htest]), List.append_nil]
        change s.received.count other =
          ((s.receivers.set index ⟨receiver.batch, .passed receipt⟩).flatMap
            Receiver.held).count other + _ + _
        rw [held_passed] at hset
        omega
      · rw [setReceiver_skipped, skipped_logTest, if_neg (by simp), List.append_nil]
  | put index receiver receipt hreceiver hheld =>
      obtain ⟨taken, htaken, hcount, horder⟩ := hconserved.taken
      refine ⟨hconserved.numbered, ?_, taken, ?_, hcount, horder⟩
      · intro other
        have hset := held_count_set hreceiver hheld ⟨receiver.batch, .next⟩ other
        have hbefore := hconserved.received other
        change s.received.count other =
          ((s.receivers.set index ⟨receiver.batch, .next⟩).flatMap Receiver.held).count other +
            (s.skipped .reception).count other + (s.enqueued ++ [receipt]).count other
        rw [List.count_append]
        simp only [held_next, List.count_nil] at hset
        omega
      · change s.enqueued ++ [receipt] = taken ++ (s.commands ++ [receipt])
        rw [htaken, List.append_assoc]
  | take receipt rest hwaiting hcommands =>
      obtain ⟨taken, htaken, hcount, horder⟩ := hconserved.taken
      refine hconserved.dispatching rfl rfl rfl rfl ⟨taken ++ [receipt], ?_, ?_, ?_⟩
      · rw [htaken, hcommands, List.append_assoc, List.singleton_append]
      · intro other
        have hbefore := hcount other
        rw [hwaiting] at hbefore
        simp only [Dispatcher.held, List.count_nil] at hbefore
        rw [List.count_append]
        change _ = [receipt].count other + s.executed.count other +
          (s.skipped .dispatch).count other
        omega
      · rw [hwaiting] at horder
        simp only [Dispatcher.held, List.append_nil] at horder
        exact horder.append_right [receipt]
  | drop receipt htook htest =>
      obtain ⟨taken, htaken, hcount, horder⟩ := hconserved.taken
      rw [htook] at hcount horder
      refine hconserved.dispatching rfl rfl rfl ?_ ⟨taken, htaken, ?_, ?_⟩
      · change (s.logTest .dispatch receipt).skipped .reception = _
        rw [skipped_logTest, if_neg (by simp), List.append_nil]
      · intro other
        have hbefore := hcount other
        simp only [Dispatcher.held] at hbefore
        change _ = List.count other [] + s.executed.count other +
          ((s.logTest .dispatch receipt).skipped .dispatch).count other
        rw [skipped_logTest, if_pos ⟨htest, rfl⟩, List.count_append, List.count_nil]
        omega
      · simp only [Dispatcher.held, List.append_nil]
        exact (List.sublist_append_left _ _).trans horder
  | clear receipt htook htest =>
      obtain ⟨taken, htaken, hcount, horder⟩ := hconserved.taken
      rw [htook] at hcount horder
      refine hconserved.dispatching rfl rfl rfl ?_ ⟨taken, htaken, ?_, horder⟩
      · change (s.logTest .dispatch receipt).skipped .reception = _
        rw [skipped_logTest, if_neg (by simp), List.append_nil]
      · intro other
        change _ = [receipt].count other + s.executed.count other +
          ((s.logTest .dispatch receipt).skipped .dispatch).count other
        rw [skipped_logTest, if_neg (by simp [htest]), List.append_nil]
        exact hcount other
  | execute receipt hpassed =>
      obtain ⟨taken, htaken, hcount, horder⟩ := hconserved.taken
      rw [hpassed] at hcount horder
      refine hconserved.dispatching rfl rfl rfl rfl ⟨taken, htaken, ?_, ?_⟩
      · intro other
        have hbefore := hcount other
        simp only [Dispatcher.held] at hbefore
        change _ = List.count other [] + (s.executed ++ [receipt]).count other +
          (s.skipped .dispatch).count other
        rw [List.count_append, List.count_nil]
        omega
      · simpa only [Dispatcher.held, List.append_nil] using horder
  | add receipt hran =>
      obtain ⟨taken, htaken, hcount, horder⟩ := hconserved.taken
      rw [hran] at hcount horder
      exact hconserved.dispatching rfl rfl rfl rfl ⟨taken, htaken, hcount, horder⟩

/-- What the tests and the executions were based on. -/
structure Recorded (s : State) : Prop where
  maxlen : s.cache.maxlen = 64
  cache : s.cache.queue = (s.recorded.map Receipt.serialNumber).rtake 64
  ran : ∀ receipt, s.dispatcher = .ran receipt → s.executed = s.recorded ++ [receipt]
  passed : ∀ receipt, s.dispatcher = .passed receipt →
    receipt.serialNumber ∉ (s.executed.map Receipt.serialNumber).rtake 64
  spaced : Window.Spaced 64 (s.executed.map Receipt.serialNumber)
  tests : ∀ test ∈ s.tests, (test.skipped = true ↔
      test.receipt.serialNumber ∈ (test.recorded.map Receipt.serialNumber).rtake 64) ∧
    (test.recorded = test.executed ∨
      test.place = .reception ∧ test.recorded = test.executed.dropLast)

theorem Recorded.init : Recorded State.init := by
  refine ⟨rfl, rfl, ?_, ?_, Window.Spaced.nil 64, ?_⟩
  · intro receipt h
    cases h
  · intro receipt h
    cases h
  · intro test h
    cases h

theorem Recorded.isCommandExecuted_iff {s : State} (hrecorded : Recorded s) (receipt : Receipt) :
    s.isCommandExecuted receipt = true ↔
      receipt.serialNumber ∈ (s.recorded.map Receipt.serialNumber).rtake 64 := by
  unfold State.isCommandExecuted CommandSerialNumberCache.contains
  rw [decide_eq_true_iff, hrecorded.cache]

theorem recorded_of_took {s : State} {receipt : Receipt} (h : s.dispatcher = .took receipt) :
    s.recorded = s.executed := by
  simp [State.recorded, h]

theorem Recorded.logTest {s : State} (hrecorded : Recorded s) (place : Place) (receipt : Receipt)
    (hplace : place = .reception ∨ s.recorded = s.executed) :
    ∀ test ∈ (s.logTest place receipt).tests, (test.skipped = true ↔
        test.receipt.serialNumber ∈ (test.recorded.map Receipt.serialNumber).rtake 64) ∧
      (test.recorded = test.executed ∨
        test.place = .reception ∧ test.recorded = test.executed.dropLast) := by
  intro test htest
  obtain htest | htest := List.mem_append.mp htest
  · exact hrecorded.tests test htest
  · obtain rfl := List.mem_singleton.mp htest
    refine ⟨hrecorded.isCommandExecuted_iff receipt, ?_⟩
    obtain hreception | hsame := hplace
    · cases hdispatcher : s.dispatcher with
      | ran receipt => exact .inr ⟨hreception, by simp [State.recorded, hdispatcher]⟩
      | _ => exact .inl (by simp [State.recorded, hdispatcher])
    · exact .inl hsame

theorem Recorded.transition {s s' : State} {action : Action} (hrecorded : Recorded s)
    (h : Transition s action s') : Recorded s' := by
  cases h with
  | call | unsupported | read | put =>
      exact ⟨hrecorded.maxlen, hrecorded.cache, hrecorded.ran, hrecorded.passed, hrecorded.spaced,
        hrecorded.tests⟩
  | skip index receiver receipt | pass index receiver receipt =>
      exact ⟨hrecorded.maxlen, hrecorded.cache, hrecorded.ran, hrecorded.passed, hrecorded.spaced,
        hrecorded.logTest .reception receipt (.inl rfl)⟩
  | take receipt rest hwaiting hcommands =>
      refine ⟨hrecorded.maxlen, ?_, ?_, ?_, hrecorded.spaced, hrecorded.tests⟩
      · have hcache := hrecorded.cache
        simp only [State.recorded, hwaiting] at hcache
        exact hcache
      · intro other h
        cases h
      · intro other h
        cases h
  | drop receipt htook htest =>
      have hsame := recorded_of_took htook
      refine ⟨hrecorded.maxlen, ?_, ?_, ?_, hrecorded.spaced,
        hrecorded.logTest .dispatch receipt (.inr hsame)⟩
      · have hcache := hrecorded.cache
        rw [hsame] at hcache
        exact hcache
      · intro other h
        cases h
      · intro other h
        cases h
  | clear receipt htook htest =>
      have hsame := recorded_of_took htook
      refine ⟨hrecorded.maxlen, ?_, ?_, ?_, hrecorded.spaced,
        hrecorded.logTest .dispatch receipt (.inr hsame)⟩
      · have hcache := hrecorded.cache
        rw [hsame] at hcache
        exact hcache
      · intro other h
        cases h
      · intro other h
        obtain rfl := Dispatcher.passed.inj h
        have hmissing := (hrecorded.isCommandExecuted_iff receipt).not.mp (by simp [htest])
        rw [hsame] at hmissing
        exact hmissing
  | execute receipt hpassed =>
      refine ⟨hrecorded.maxlen, ?_, ?_, ?_, ?_, hrecorded.tests⟩
      · have hcache := hrecorded.cache
        simp only [State.recorded, hpassed] at hcache
        simpa [State.recorded] using hcache
      · intro other h
        obtain rfl := Dispatcher.ran.inj h
        simp [State.recorded]
      · intro other h
        cases h
      · rw [List.map_append]
        exact hrecorded.spaced.append (hrecorded.passed receipt hpassed)
  | add receipt hran =>
      refine ⟨hrecorded.maxlen, ?_, ?_, ?_, hrecorded.spaced, hrecorded.tests⟩
      · change Window.push s.cache.maxlen s.cache.queue receipt.serialNumber =
          (s.executed.map Receipt.serialNumber).rtake 64
        rw [hrecorded.maxlen, hrecorded.cache, Window.push_rtake, hrecorded.ran receipt hran,
          List.map_append, List.map_singleton]
      · intro other h
        cases h
      · intro other h
        cases h

theorem invariants_of_run {mode : Mode} {actions : List Action} {s : State}
    (hrun : Run (Step mode) State.init actions s) : Conserved s ∧ Recorded s := by
  apply hrun.invariant (I := fun s => Conserved s ∧ Recorded s)
  · intro state action next hinv hstep
    have htransition := transition_of_step hstep.2
    exact ⟨hinv.1.transition htransition, hinv.2.transition htransition⟩
  · exact ⟨Conserved.init, Recorded.init⟩

/-- On the event loop nothing is tested between an execution and its `add`. -/
theorem recorded_eq_executed_of_async {actions : List Action} {s : State}
    (hrun : Run (Step .async) State.init actions s) :
    ∀ test ∈ s.tests, test.recorded = test.executed := by
  apply hrun.invariant (I := fun s => ∀ test ∈ s.tests, test.recorded = test.executed)
  · intro state action next htests hstep
    have hlog : ∀ (place : Place) (receipt : Receipt), state.recorded = state.executed →
        ∀ test ∈ (state.logTest place receipt).tests, test.recorded = test.executed := by
      intro place receipt hsame test htest
      obtain htest | htest := List.mem_append.mp htest
      · exact htests test htest
      · obtain rfl := List.mem_singleton.mp htest
        exact hsame
    have hscheduled := hstep.1
    cases transition_of_step hstep.2 with
    | skip index receiver receipt | pass index receiver receipt =>
        have hwaiting : state.dispatcher = .waiting := hscheduled.1
        apply hlog .reception receipt
        simp [State.recorded, hwaiting]
    | drop receipt htook | clear receipt htook => exact hlog .dispatch receipt (recorded_of_took htook)
    | call | unsupported | read | put | take | execute | add => exact htests
  · intro test h
    cases h

theorem enqueued_nodup {s : State} (hconserved : Conserved s) :
    s.received.Nodup ∧ s.enqueued.Nodup := by
  have hreceived : s.received.Nodup := by
    apply List.Nodup.of_map Receipt.number
    rw [hconserved.numbered]
    exact List.nodup_range
  refine ⟨hreceived, List.nodup_iff_count_le_one.mpr ?_⟩
  intro receipt
  have honce := List.nodup_iff_count_le_one.mp hreceived receipt
  have hwhere := hconserved.received receipt
  omega

theorem received_perm {s : State} (hconserved : Conserved s) :
    s.received.Perm (s.receivers.flatMap Receiver.held ++ s.skipped .reception ++ s.commands ++
      s.dispatcher.held ++ s.executed ++ s.skipped .dispatch) := by
  rw [List.perm_iff_count]
  intro receipt
  obtain ⟨taken, htaken, hcount, -⟩ := hconserved.taken
  have hwhere := hconserved.received receipt
  have hhere := hcount receipt
  rw [htaken, List.count_append] at hwhere
  simp only [List.count_append]
  omega

theorem executed_sublist_enqueued {s : State} (hconserved : Conserved s) :
    s.executed.Sublist s.enqueued := by
  obtain ⟨taken, htaken, -, horder⟩ := hconserved.taken
  rw [htaken]
  calc
    s.executed.Sublist (s.executed ++ s.dispatcher.held) := List.sublist_append_left _ _
    List.Sublist _ taken := horder
    List.Sublist _ (taken ++ s.commands) := List.sublist_append_left _ _

/-- The commands are executed in the order of the queue and apart by more than the cache holds; each
received one is held, queued, executed or skipped, and only once; it is skipped only for a serial number
among the last 64 recorded ones, which are the last 64 executed ones unless the command just executed
is still to be recorded. -/
theorem commands_executed_once_or_skipped (mode : Mode) {actions : List Action} {s : State}
    (hrun : Run (Step mode) State.init actions s) :
    s.enqueued.Nodup ∧ s.executed.Sublist s.enqueued ∧
    Window.Spaced 64 (s.executed.map Receipt.serialNumber) ∧
    s.received.Nodup ∧
    s.received.Perm (s.receivers.flatMap Receiver.held ++ s.skipped .reception ++ s.commands ++
      s.dispatcher.held ++ s.executed ++ s.skipped .dispatch) ∧
    ∀ test ∈ s.tests, (test.skipped = true →
        test.receipt.serialNumber ∈ (test.recorded.map Receipt.serialNumber).rtake 64) ∧
      (test.recorded = test.executed ∨
        mode = .sync ∧ test.place = .reception ∧ test.recorded = test.executed.dropLast) := by
  obtain ⟨hconserved, hrecorded⟩ := invariants_of_run hrun
  obtain ⟨hreceived, henqueued⟩ := enqueued_nodup hconserved
  refine ⟨henqueued, executed_sublist_enqueued hconserved, hrecorded.spaced, hreceived,
    received_perm hconserved, ?_⟩
  intro test htest
  obtain ⟨hskipped, hpending⟩ := hrecorded.tests test htest
  refine ⟨hskipped.mp, ?_⟩
  cases mode with
  | sync => exact hpending.imp_right fun h => ⟨rfl, h⟩
  | async => exact .inl (recorded_eq_executed_of_async hrun test htest)

/-- The threads of the sync service may do anything that an executed run does. -/
theorem exists_sync_run {actions : List Action} {P : State → Prop} [DecidablePred P]
    (h : (actions.foldlM step State.init).any (fun s => decide (P s)) = true) :
    ∃ s, Run (Step .sync) State.init actions s ∧ P s := by
  obtain ⟨s, hrun, hfacts⟩ := Run.exists_of_foldlM h
  exact ⟨s, hrun.mono fun _ _ _ hstep => ⟨trivial, hstep⟩, hfacts⟩

/-- A command with a serial number of that many digits and nothing else. -/
def serialCommand (digits : Nat) : Command :=
  { command := ProfileTaskCommand.name
    args := [⟨"SerialNumber", String.ofList (List.replicate digits '1')⟩] }

/-- The same command twice in a batch: both pass the first test, and the second is skipped later. -/
def repeatedCommand : List Action :=
  [.receiveCommand [serialCommand 1, ⟨"ConfigurationDiscovery", []⟩, serialCommand 1]] ++
    List.replicate 7 (.receiver 0) ++ List.replicate 6 .dispatcher

theorem repeatedCommand_dispatched : ∃ s, Run (Step .sync) State.init repeatedCommand s ∧
    s.enqueued.length = 2 ∧ s.executed.length = 1 ∧ (s.skipped .dispatch).length = 1 ∧
    s.executed.Sublist s.enqueued ∧
    s.received.Perm (s.receivers.flatMap Receiver.held ++ s.skipped .reception ++ s.commands ++
      s.dispatcher.held ++ s.executed ++ s.skipped .dispatch) := by
  have hresult : ∃ s, Run (Step .sync) State.init repeatedCommand s ∧ s.enqueued.length = 2 ∧
      s.executed.length = 1 ∧ (s.skipped .dispatch).length = 1 := by
    apply exists_sync_run
    decide +kernel
  obtain ⟨s, hrun, henqueued, hexecuted, hskipped⟩ := hresult
  obtain ⟨-, hsublist, -, -, hperm, -⟩ := commands_executed_once_or_skipped .sync hrun
  exact ⟨s, hrun, henqueued, hexecuted, hskipped, hsublist, hperm⟩

/-- Sixty-five commands are executed, the last is not yet recorded, and the first comes again. -/
def lateAdd : List Action :=
  [.receiveCommand ((List.range 65).map serialCommand)] ++ List.replicate 195 (.receiver 0) ++
    List.replicate 259 .dispatcher ++ [.receiveCommand [serialCommand 0], .receiver 1, .receiver 1]

theorem skipped_not_among_last_executed : ¬ ∀ (mode : Mode) (actions : List Action) (s : State),
    Run (Step mode) State.init actions s → ∀ test ∈ s.tests, test.skipped = true →
      test.receipt.serialNumber ∈ (test.executed.map Receipt.serialNumber).rtake 64 := by
  intro hall
  have hresult : ∃ s, Run (Step .sync) State.init lateAdd s ∧
      ∃ test ∈ s.tests, test.skipped = true ∧
        test.receipt.serialNumber ∉ (test.executed.map Receipt.serialNumber).rtake 64 := by
    apply exists_sync_run
    decide +kernel
  obtain ⟨s, hrun, test, htest, hskipped, hold⟩ := hresult
  exact hold (hall .sync lateAdd s hrun test htest hskipped)

end SkyWalking.CommandService
