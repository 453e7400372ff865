import Mathlib.Data.List.Perm.Subperm
import SkyWalking.Report.Async

/-!
# What the asyncio reporters hand over
-/

namespace SkyWalking.Async

variable {Item : Type} {reporter : Reporter} {raises : Item → Bool} {maxsize : Nat}
  {s s' : State Item} {action : Action Item}

/-- Only a resumed generator takes items and hands them over. -/
inductive Moves (reporter : Reporter) (raises : Item → Bool) (action : Action Item)
    (s s' : State Item) : Prop where
  | still (hqueue : ∀ item ∈ s'.queue, item ∈ s.queue ∨ action = .put item)
      (htaken : s'.taken = s.taken) (hhanded : s'.handed = s.handed)
      (hleftover : s'.leftover = s.leftover ∨ reporter.consumption = .stream)
  | take (item : Item) (rest : List Item) (hqueue : s.queue = item :: rest)
      (hnext : s' = s.take reporter raises item rest)
  | takeLeftover (item : Item) (rest : List Item) (hleftover : 0 < s.leftover)
      (hqueue : s.queue = item :: rest) (hnext : s' = s.takeLeftover reporter raises item rest)

theorem Moves.same (hqueue : s'.queue = s.queue) (htaken : s'.taken = s.taken)
    (hhanded : s'.handed = s.handed) (hleftover : s'.leftover = s.leftover) :
    Moves reporter raises action s s' :=
  .still (fun _ hitem => .inl (hqueue ▸ hitem)) htaken hhanded (.inl hleftover)

theorem mem_put {queue : List Item} {item other : Item}
    (h : other ∈ (Queue.put maxsize queue item).getD queue) : other ∈ queue ∨ other = item := by
  unfold Queue.put at h
  split at h
  · exact .inl h
  · simpa using h

theorem Step.moves (h : Step reporter raises maxsize s action s') :
    Moves reporter raises action s s' := by
  cases action with
  | put item =>
      obtain rfl := Option.some.inj h
      refine .still (fun other hother => ?_) rfl rfl (.inl rfl)
      exact (mem_put hother).imp_right fun heq => congrArg Action.put heq.symm
  | connectivity ready =>
      obtain rfl := Option.some.inj h
      exact .same rfl rfl rfl rfl
  | call =>
      simp only [Step, step] at h
      split at h
      · split at h
        · obtain rfl := Option.some.inj h
          exact .same rfl rfl rfl rfl
        · split at h <;> obtain rfl := Option.some.inj h <;> exact .same rfl rfl rfl rfl
      · cases h
  | started ok =>
      simp only [Step, step] at h
      split at h
      · split at h <;> obtain rfl := Option.some.inj h <;> exact .same rfl rfl rfl rfl
      · cases h
  | resume =>
      simp only [Step, step] at h
      split at h
      · cases hqueue : s.queue with
        | nil =>
            simp only [hqueue, generator] at h
            obtain rfl := Option.some.inj h
            exact .same rfl rfl rfl rfl
        | cons item rest =>
            simp only [hqueue, generator] at h
            exact .take item rest hqueue (Option.some.inj h).symm
      · cases h
  | returned ok =>
      simp only [Step, step] at h
      split at h
      · split at h <;> obtain rfl := Option.some.inj h <;> exact .same rfl rfl rfl rfl
      · cases h
  | streamEnded =>
      simp only [Step, step] at h
      split at h
      case isTrue hstream =>
        obtain rfl := Option.some.inj h
        exact .still (fun _ hitem => .inl hitem) rfl rfl (.inr hstream.2)
      · cases h
  | resumeLeftover =>
      simp only [Step, step] at h
      split at h
      case isTrue hleftover =>
        cases hqueue : s.queue with
        | nil =>
            simp only [hqueue, generator] at h
            obtain rfl := Option.some.inj h
            exact .same rfl rfl rfl rfl
        | cons item rest =>
            simp only [hqueue, generator] at h
            exact .takeLeftover item rest hleftover hqueue (Option.some.inj h).symm
      · cases h
  | abandon =>
      obtain rfl := Option.some.inj h
      exact .still (fun _ hitem => absurd hitem List.not_mem_nil) rfl rfl (.inl rfl)
  | cancel =>
      obtain rfl := Option.some.inj h
      exact .same rfl rfl rfl rfl

@[simp]
theorem queue_take (item : Item) (rest : List Item) (s : State Item) :
    (s.take reporter raises item rest).queue = rest := by
  unfold State.take
  dsimp only
  split
  · rfl
  · split <;> rfl

@[simp]
theorem taken_take (item : Item) (rest : List Item) (s : State Item) :
    (s.take reporter raises item rest).taken = s.taken ++ [item] := by
  unfold State.take
  dsimp only
  split
  · rfl
  · split <;> rfl

@[simp]
theorem queue_takeLeftover (item : Item) (rest : List Item) (s : State Item) :
    (s.takeLeftover reporter raises item rest).queue = rest := by
  unfold State.takeLeftover
  dsimp only
  split <;> rfl

@[simp]
theorem taken_takeLeftover (item : Item) (rest : List Item) (s : State Item) :
    (s.takeLeftover reporter raises item rest).taken = s.taken ++ [item] := by
  unfold State.takeLeftover
  dsimp only
  split <;> rfl

theorem queue_builds {actions : List (Action Item)}
    (hrun : Run (Guarded (fun _ action => action.Builds raises) (Step reporter raises maxsize))
      .init actions s) :
    ∀ item ∈ s.queue, raises item = false := by
  refine Run.invariant (I := fun s => ∀ item ∈ s.queue, raises item = false) ?_ hrun (by simp [State.init])
  rintro s action s' ih ⟨hbuilds, hstep⟩
  cases hstep.moves with
  | still hqueue _ _ _ =>
      intro item hitem
      obtain hitem | rfl := hqueue item hitem
      · exact ih item hitem
      · exact hbuilds
  | take first rest hqueue hnext =>
      intro item hitem
      rw [hnext, queue_take] at hitem
      exact ih item (hqueue ▸ List.mem_cons_of_mem first hitem)
  | takeLeftover first rest _ hqueue hnext =>
      intro item hitem
      rw [hnext, queue_takeLeftover] at hitem
      exact ih item (hqueue ▸ List.mem_cons_of_mem first hitem)

theorem handed_take_of_direct {item : Item} (rest : List Item) (s : State Item)
    (hdirect : reporter.consumption = .stream ∨ reporter.consumption = .each) (hraises : raises item = false) :
    (s.take reporter raises item rest).handed = s.handed ++ [item] := by
  unfold State.take
  rw [hraises, Bool.and_false]
  obtain h | h := hdirect <;> rw [h] <;> rfl

theorem handed_takeLeftover {item : Item} (rest : List Item) (s : State Item)
    (hraises : raises item = false) :
    (s.takeLeftover reporter raises item rest).handed = s.handed ++ [item] := by
  unfold State.takeLeftover
  rw [hraises, Bool.and_false]
  rfl

theorem direct_hands_over (hdirect : reporter.consumption = .stream ∨ reporter.consumption = .each)
    {actions : List (Action Item)}
    (hrun : Run (Guarded (fun _ action => action.Builds raises) (Step reporter raises maxsize))
      .init actions s) :
    s.taken = s.handed := by
  induction hrun with
  | nil => rfl
  | snoc hrun hlast ih =>
      have hbuilds := queue_builds hrun
      cases hlast.2.moves with
      | still _ htaken hhanded _ => rw [htaken, hhanded, ih]
      | take item rest hqueue hnext =>
          have hraises := hbuilds item (hqueue ▸ List.mem_cons_self)
          rw [hnext, taken_take, handed_take_of_direct rest _ hdirect hraises, ih]
      | takeLeftover item rest _ hqueue hnext =>
          have hraises := hbuilds item (hqueue ▸ List.mem_cons_self)
          rw [hnext, taken_takeLeftover, handed_takeLeftover rest _ hraises, ih]

/-- The reporter is not inside a call and no generator is left over. -/
def State.Quiet (s : State Item) : Prop :=
  (s.phase = .idle ∨ s.phase = .stopped) ∧ s.leftover = 0

theorem Quiet.step (hnothing : reporter.consumption = .nothing) (hquiet : s.Quiet)
    (h : Step reporter raises maxsize s action s') : s'.Quiet := by
  obtain ⟨hphase, hleftover⟩ := hquiet
  have hstarting : s.phase ≠ .starting := by rintro h; simp [h] at hphase
  have hwaiting : s.phase ≠ .waiting := by rintro h; simp [h] at hphase
  have hsending : s.phase ≠ .sending := by rintro h; simp [h] at hphase
  cases action with
  | put item => exact Option.some.inj h ▸ ⟨hphase, hleftover⟩
  | connectivity ready => exact Option.some.inj h ▸ ⟨hphase, hleftover⟩
  | call =>
      simp only [Step, SkyWalking.Async.step, hnothing, if_true] at h
      split at h
      · exact Option.some.inj h ▸ ⟨hphase, hleftover⟩
      · cases h
  | started ok => simp [Step, SkyWalking.Async.step, hstarting] at h
  | resume => simp [Step, SkyWalking.Async.step, hwaiting] at h
  | returned ok => simp [Step, SkyWalking.Async.step, hsending] at h
  | streamEnded => simp [Step, SkyWalking.Async.step, hwaiting] at h
  | resumeLeftover => simp [Step, SkyWalking.Async.step, hleftover] at h
  | abandon => exact Option.some.inj h ▸ ⟨hphase, hleftover⟩
  | cancel => exact Option.some.inj h ▸ ⟨.inr rfl, hleftover⟩

theorem nothing_never_suspended (hnothing : reporter.consumption = .nothing)
    {actions : List (Action Item)} (hrun : Run (Step reporter raises maxsize) .init actions s) :
    ¬ s.Suspended := by
  have hquiet : s.Quiet :=
    hrun.invariant (I := State.Quiet) (fun _ _ _ ih hstep => Quiet.step hnothing ih hstep)
      ⟨.inl rfl, rfl⟩
  rintro ⟨hwaiting, -⟩
  rw [State.Quiet, hwaiting] at hquiet
  simp at hquiet

theorem handed_take_of_collect {sendsEmpty : Bool}
    (hcollect : reporter.consumption = .collect sendsEmpty) (raises : Item → Bool) (item : Item)
    (rest : List Item) (s : State Item) :
    (s.take reporter raises item rest).handed = s.handed ∧
      (s.take reporter raises item rest).leftover = s.leftover := by
  unfold State.take
  rw [hcollect]
  dsimp only
  split <;> exact ⟨rfl, rfl⟩

/-- The generator does not end, so the call after the list is never made. -/
theorem collect_hands_nothing {sendsEmpty : Bool}
    (hcollect : reporter.consumption = .collect sendsEmpty) {actions : List (Action Item)}
    (hrun : Run (Step reporter raises maxsize) .init actions s) : s.handed = [] := by
  have hkept : s.handed = [] ∧ s.leftover = 0 := by
    refine hrun.invariant (I := fun s => s.handed = [] ∧ s.leftover = 0) ?_ ⟨rfl, rfl⟩
    rintro s action s' ⟨hhanded, hleftover⟩ hstep
    cases hstep.moves with
    | still _ _ hhanded' hleftover' =>
        rw [hcollect] at hleftover'
        exact ⟨hhanded'.trans hhanded, (hleftover'.resolve_right nofun).trans hleftover⟩
    | take item rest _ hnext =>
        have hsame := handed_take_of_collect hcollect raises item rest s
        rw [hnext]
        exact ⟨hsame.1.trans hhanded, hsame.2.trans hleftover⟩
    | takeLeftover item rest hpositive _ _ => omega
  exact hkept.1

/-- One item is put, and the reporter runs until it waits for the next. -/
def takeOne (reporter : Reporter) (item : Item) : List (Action Item) :=
  [.put item, .call] ++ (if reporter.startsProducer then [.started true] else []) ++ [.resume]

theorem collect_takes {sendsEmpty : Bool} (hcollect : reporter.consumption = .collect sendsEmpty)
    (hgated : reporter.gated = false) (maxsize : Nat) {item : Item} (hraises : raises item = false) :
    ∃ s, Run (Step reporter raises maxsize) .init (takeOne reporter item) s ∧ s.Suspended ∧
      s.taken = [item] := by
  obtain ⟨gated, startsProducer, builds, consumption⟩ := reporter
  obtain rfl : gated = false := hgated
  obtain rfl : consumption = .collect sendsEmpty := hcollect
  cases startsProducer <;>
    exact ⟨_, Run.of_foldlM (takeOne _ item)
      (by simp [takeOne, step, State.init, Queue.put_nil, generator, State.take, hraises]; rfl),
      ⟨rfl, rfl⟩, rfl⟩

theorem takeOne_builds {item : Item} (hraises : raises item = false) :
    ∀ action ∈ takeOne reporter item, action.Builds raises := by
  intro action haction
  unfold takeOne at haction
  split at haction <;> simp only [List.cons_append, List.nil_append, List.mem_cons,
    List.not_mem_nil, or_false] at haction
  · obtain rfl | rfl | rfl | rfl := haction
    exacts [hraises, trivial, trivial, trivial]
  · obtain rfl | rfl | rfl := haction
    exacts [hraises, trivial, trivial]

/-- A collecting reporter can wait for its next item with the first one still in its list. -/
theorem collect_keeps_item (reporter : Reporter) {sendsEmpty : Bool}
    (hcollect : reporter.consumption = .collect sendsEmpty) (hgated : reporter.gated = false)
    (maxsize : Nat) {item : Item} (hraises : raises item = false) :
    ∃ actions s, Run (Guarded (fun _ action => action.Builds raises) (Step reporter raises maxsize))
        .init actions s ∧ s.Suspended ∧ ¬ s.HandedOver := by
  obtain ⟨s, hrun, hsuspended, htaken⟩ := collect_takes hcollect hgated maxsize hraises
  refine ⟨_, s, hrun.guarded (takeOne_builds hraises), hsuspended, ?_⟩
  intro hhanded
  rw [State.HandedOver, htaken, collect_hands_nothing hcollect hrun] at hhanded
  exact absurd hhanded.length_le (by simp)

end SkyWalking.Async

namespace SkyWalking

open Async

/-- The reporters that hand over what they take, in every run whose items can be built: all but the
HTTP reporter of logs and the Kafka reporter of meters. -/
theorem async_reporter_hands_over_iff (protocol : Protocol) (kind : ItemKind) (maxsize : Nat)
    {Item : Type} {raises : Item → Bool} (item : Item) (hitem : raises item = false) :
    (∀ actions (s : State Item),
        Run (Guarded (fun _ action => action.Builds raises)
          (Step (protocol.asyncReporter kind) raises maxsize)) .init actions s →
        s.Suspended → s.HandedOver) ↔
      (protocol, kind) ≠ (.http, .log) ∧ (protocol, kind) ≠ (.kafka, .meter) := by
  constructor
  · intro h
    constructor
    · rintro ⟨⟩
      obtain ⟨actions, s, hrun, hsuspended, hkept⟩ :=
        collect_keeps_item HttpProtocolAsync.reportLog rfl rfl maxsize hitem
      exact hkept (h actions s hrun hsuspended)
    · rintro ⟨⟩
      obtain ⟨actions, s, hrun, hsuspended, hkept⟩ :=
        collect_keeps_item KafkaProtocolAsync.reportMeter rfl rfl maxsize hitem
      exact hkept (h actions s hrun hsuspended)
  · rintro ⟨hlog, hmeter⟩ actions s hrun hsuspended
    have hconsumption : ((protocol.asyncReporter kind).consumption = .stream ∨
        (protocol.asyncReporter kind).consumption = .each) ∨
        (protocol.asyncReporter kind).consumption = .nothing := by
      cases protocol <;> cases kind <;> simp_all [Protocol.asyncReporter] <;> decide
    obtain hdirect | hnothing := hconsumption
    · rw [State.HandedOver, direct_hands_over hdirect hrun]
    · exact absurd hsuspended
        (nothing_never_suspended hnothing (hrun.mono fun _ _ _ hstep => hstep.2))

/-- One segment is put, taken and written into the stream, and the reporter waits for the next one. -/
theorem grpc_segment_handed_over :
    ∃ s : State Nat,
      Run (Guarded (fun _ action => action.Builds fun _ => false)
        (Step (Protocol.grpc.asyncReporter .segment) (fun _ => false) 10)) .init
        [.connectivity true, .put 1, .call, .resume, .returned true] s ∧
      s.Suspended ∧ s.taken = [1] ∧ s.HandedOver := by
  have hrun : Run (Guarded (fun _ action => action.Builds fun _ => false)
      (Step (Protocol.grpc.asyncReporter .segment) (fun _ => false) 10)) .init
      [.connectivity true, .put 1, .call, .resume, .returned true]
      { State.init with ready := true, phase := .waiting, taken := [1], handed := [1] } := by
    refine Run.guarded (Run.of_foldlM _ rfl) ?_
    intro action haction
    cases action with
    | put item => rfl
    | _ => trivial
  exact ⟨_, hrun, ⟨rfl, rfl⟩, rfl,
    (async_reporter_hands_over_iff .grpc .segment 10 0 rfl).mpr (by decide) _ _ hrun ⟨rfl, rfl⟩⟩

/-- One log is put, taken and kept in the list: the HTTP reporter waits for the next one. -/
theorem http_log_not_handed_over :
    ∃ s : State Nat,
      Run (Step (Protocol.http.asyncReporter .log) (fun _ => false) 10) .init
        [.put 1, .call, .resume] s ∧
      s.Suspended ∧ s.taken = [1] ∧ s.handed = [] ∧ ¬ s.HandedOver := by
  refine ⟨{ State.init with phase := .waiting, batch := [1], taken := [1] },
    Run.of_foldlM _ rfl, ⟨rfl, rfl⟩, rfl, rfl, ?_⟩
  intro hhanded
  exact absurd hhanded.length_le (by decide)

end SkyWalking
