import SkyWalking.Lib.Store
import SkyWalking.Profile.Slots

/-!
# The profile thread

While a task runs, the profile thread passes over the slots again and again and takes snapshots of the
threads it finds there. Application threads open entry spans, which may put a profiler into a slot, and
close them; closing the last open span of a context archives its segment. A context belongs to one
thread and is not used again after its segment has been archived. The clock is an input of the step that
reads it.
-/

namespace SkyWalking

inductive ProfileStatus where
  | none
  | pending
  | profiling
  | stopped
  deriving DecidableEq, Repr

instance : Inhabited ProfileStatus := ⟨.none⟩

namespace ProfileThread

/-- What a call of `new_entry_span` is doing about the profiler. -/
inductive Call where
  | idle
  /-- In `attempt_profiling`; `assigns` if its result becomes `profile_status`, otherwise the status of
  the result is copied by `profiling_recheck`. -/
  | attempting (attempt : Nat) (assigns : Bool)
  | updating (status : ProfileStatus)
  deriving DecidableEq, Repr

/-- What a `SpanContext` has to do with profiling. -/
structure TraceContext where
  thread : Nat
  nspans : Nat := 0
  archived : Bool := false
  /-- The reference held by `profile_status`. -/
  profileStatus : Option Nat := none
  call : Call := .idle
  deriving DecidableEq, Repr

instance : Inhabited TraceContext := ⟨{ thread := 0 }⟩

/-- The fields of a `ThreadProfiler` that change. -/
structure ThreadProfiler where
  profileStatus : Nat
  dumpSequence : Nat := 0
  deriving DecidableEq, Repr

instance : Inhabited ThreadProfiler := ⟨{ profileStatus := 0 }⟩

structure Snapshot where
  traceContext : Nat
  sequence : Nat
  /-- Whether the segment had been archived when the snapshot was built. -/
  late : Bool
  deriving DecidableEq, Repr

/-- Where the profile thread is. -/
inductive Loop where
  /-- Between two passes. -/
  | sleeping
  | passing (idx : Nat)
  /-- At the test for `PENDING`. -/
  | looking (idx : Nat) (profiler : Profiler)
  /-- At the test for `PROFILING`. -/
  | looked (idx : Nat) (profiler : Profiler)
  /-- At `is_alive()`. -/
  | dumping (idx : Nat) (profiler : Profiler)
  /-- At `sys._current_frames()`. -/
  | framing (idx : Nat) (profiler : Profiler)
  /-- At the check of the first dump. -/
  | counting (idx : Nat) (profiler : Profiler)
  /-- At the construction of the snapshot. -/
  | building (idx : Nat) (profiler : Profiler)
  /-- In `stop_tracing_profile`. -/
  | stopping (idx : Nat) (profiler : Profiler)
  | ended
  deriving DecidableEq, Repr

structure State where
  slots : ProfileTaskExecutionContext.State
  references : Store ProfileStatus
  contexts : Store TraceContext
  /-- By the attempt that made them. -/
  profilers : Store ThreadProfiler
  endedThreads : List Nat
  /-- The task has been stopped: the context is no longer the current one. -/
  stopEvent : Bool
  loop : Loop
  /-- The contexts whose segments were archived when the pass began. -/
  archivedBefore : List Nat
  snapshots : List Snapshot

def State.init (maxParallel : Nat) : State :=
  { slots := .init maxParallel
    references := .empty
    contexts := .empty
    profilers := .empty
    endedThreads := []
    stopEvent := false
    loop := .sleeping
    archivedBefore := []
    snapshots := [] }

def State.isAlive (s : State) (thread : Nat) : Bool := decide (thread ∉ s.endedThreads)

/-- The status that a profiler refers to. -/
def State.status (s : State) (profiler : Profiler) : ProfileStatus :=
  s.references.get (s.profilers.get profiler.attempt).profileStatus

/-- The steps of the application threads. -/
inductive AppAction where
  | getContext (thread : Nat)
  /-- `inherits`: the span takes over the first span of the context, whose name changes. -/
  | newEntrySpan (context : Nat) (op : String) (inherits : Bool)
  | attempt (context : Nat)
  | settle (context : Nat)
  | startSpan (context : Nat)
  | stopSpan (context : Nat)
  | endThread (thread : Nat)
  deriving DecidableEq, Repr

inductive Action where
  | app (action : AppAction)
  /-- `answer`: at the test for `PENDING`, that the context is older than the threshold of the task; at
  `sys._current_frames()`, that another thread has got the number of a thread that has ended. -/
  | profile (answer : Bool)
  | stopProfiling
  deriving DecidableEq, Repr

section Steps

variable (maxParallel : Nat) (task : ProfileTask)

/-- An operation on the slots. -/
def State.onSlots (s : State) (action : ProfileTaskExecutionContext.Action) : Option State :=
  (ProfileTaskExecutionContext.step maxParallel task s.slots action).map fun slots =>
    { s with slots := slots }

def State.setCall (s : State) (context : Nat) (call : Call) : State :=
  { s with contexts := s.contexts.modify context fun c => { c with call := call } }

def State.setProfileStatus (s : State) (context reference : Nat) : State :=
  { s with
    contexts := s.contexts.modify context fun c =>
      { c with profileStatus := some reference, call := .idle } }

/-- `ProfileStatusReference.create_with_none()` as the result of `add_profiling`. -/
def State.assignNone (s : State) (context : Nat) : State :=
  { s with references := s.references.alloc .none }.setProfileStatus context s.references.size

def State.addProfiling (s : State) (context : Nat) (op : String) (assigns : Bool) : Option State :=
  (s.onSlots maxParallel task (.attemptProfiling context op)).map fun s' =>
    s'.setCall context (.attempting s.slots.attempts.length assigns)

def State.newEntrySpan (s : State) (context : Nat) (op : String) (inherits : Bool) : Option State :=
  match (s.contexts.get context).profileStatus with
  | none =>
      if s.stopEvent then some (s.assignNone context)
      else s.addProfiling maxParallel task context op true
  | some reference =>
      if inherits && !s.stopEvent && s.references.get reference == .none then
        s.addProfiling maxParallel task context op false
      else some s

/-- The constructor of `ThreadProfiler`: a context without a status gets a new reference, which it does
not know yet. -/
def State.construct (s : State) (context attempt : Nat) : State :=
  match (s.contexts.get context).profileStatus with
  | none =>
      { s with
        references := s.references.alloc .pending
        profilers := s.profilers.set attempt { profileStatus := s.references.size } }
  | some reference =>
      { s with
        references := s.references.set reference .pending
        profilers := s.profilers.set attempt { profileStatus := reference } }

def State.progress (s : State) (attempt : Nat) : Option ProfileTaskExecutionContext.Progress :=
  s.slots.attempts[attempt]?.map fun attempt => attempt.progress

/-- The next operation of `attempt_profiling`; the profiler is made when the count has been raised. -/
def State.attempt (s : State) (context : Nat) : Option State :=
  match (s.contexts.get context).call with
  | .attempting attempt _ =>
      (s.onSlots maxParallel task (.attemptStep attempt)).map fun s' =>
        if s'.progress attempt = some (.scanning 0) then s'.construct context attempt else s'
  | _ => none

/-- What the caller does with the result of `attempt_profiling`. -/
def State.settle (s : State) (context : Nat) : Option State :=
  match (s.contexts.get context).call with
  | .idle => none
  | .attempting attempt assigns =>
      match s.progress attempt with
      | some (.took _) =>
          let reference := (s.profilers.get attempt).profileStatus
          if assigns then some (s.setProfileStatus context reference)
          else some (s.setCall context (.updating (s.references.get reference)))
      | some .refused | some .exhausted =>
          if assigns then some (s.assignNone context)
          else some (s.setCall context (.updating .none))
      | _ => none
  | .updating status =>
      match (s.contexts.get context).profileStatus with
      | none => none
      | some reference =>
          some ({ s with references := s.references.set reference status }.setCall context .idle)

/-- The context is in use and its thread is free for the next statement. -/
def State.Ready (s : State) (context : Nat) : Prop :=
  context < s.contexts.size ∧ (s.contexts.get context).archived = false ∧
    (s.contexts.get context).call = .idle ∧
    s.isAlive (s.contexts.get context).thread = true

instance (s : State) (context : Nat) : Decidable (s.Ready context) := by
  unfold State.Ready
  infer_instance

/-- `_nspans -= 1`, and `archive_segment` if that was the last span. -/
def State.stopSpan (s : State) (context : Nat) : State :=
  { s with
    contexts := s.contexts.modify context fun c =>
      { c with nspans := c.nspans - 1, archived := decide (c.nspans - 1 = 0) } }

def State.appStep (s : State) : AppAction → Option State
  | .getContext thread =>
      if s.isAlive thread then some { s with contexts := s.contexts.alloc { thread := thread } }
      else none
  | .newEntrySpan context op inherits =>
      if s.Ready context then s.newEntrySpan maxParallel task context op inherits else none
  | .attempt context => s.attempt maxParallel task context
  | .settle context => s.settle context
  | .startSpan context =>
      if s.Ready context then
        some { s with
          contexts := s.contexts.modify context fun c => { c with nspans := c.nspans + 1 } }
      else none
  | .stopSpan context =>
      if s.Ready context ∧ 0 < (s.contexts.get context).nspans then some (s.stopSpan context)
      else none
  | .endThread thread =>
      if ∀ context < s.contexts.size,
          (s.contexts.get context).thread = thread → (s.contexts.get context).call = .idle then
        some { s with endedThreads := s.endedThreads ++ [thread] }
      else none

def State.archived (s : State) : List Nat :=
  (List.range s.contexts.size).filter fun context => (s.contexts.get context).archived

/-- An exception leaves `profiling`, and `start` stops the task. -/
def State.die (s : State) : State := { s with loop := .ended, stopEvent := true }

/-- `start_profiling_if_need`; the profile thread dies if the context does not know its status yet. -/
def State.startProfilingIfNeed (s : State) (idx : Nat) (profiler : Profiler) (elapsed : Bool) :
    State :=
  if elapsed then
    match (s.contexts.get profiler.traceContext).profileStatus with
    | none => s.die
    | some reference =>
        { s with
          references := s.references.set reference .profiling
          loop := .passing (idx + 1) }
  else { s with loop := .passing (idx + 1) }

/-- `build_snapshot` has returned `None`. -/
def State.giveUp (s : State) (idx : Nat) (profiler : Profiler) : Option State :=
  { s with loop := .stopping idx profiler }.onSlots maxParallel task
    (.stopTracingProfile profiler.traceContext)

def State.buildSnapshot (s : State) (idx : Nat) (profiler : Profiler) : State :=
  { s with
    snapshots := s.snapshots ++
      [⟨profiler.traceContext, (s.profilers.get profiler.attempt).dumpSequence,
        (s.contexts.get profiler.traceContext).archived⟩]
    profilers := s.profilers.modify profiler.attempt fun p =>
      { p with dumpSequence := p.dumpSequence + 1 }
    loop := .passing (idx + 1) }

/-- The next operation of `stop_tracing_profile`, with the update of the status in its place. -/
def State.stopStep (s : State) (idx : Nat) : Option State :=
  match s.slots.stopping with
  | .idle => some { s with loop := .passing (idx + 1) }
  | .cleared stopped =>
      match (s.contexts.get stopped.traceContext).profileStatus with
      | none => some s.die
      | some reference =>
          { s with references := s.references.set reference .stopped }.onSlots maxParallel task
            .stopStep
  | _ => s.onSlots maxParallel task .stopStep

def State.profileStep (s : State) (answer : Bool) : Option State :=
  match s.loop with
  | .sleeping =>
      if s.stopEvent then some { s with loop := .ended }
      else some { s with loop := .passing 0, archivedBefore := s.archived }
  | .passing idx =>
      match s.slots.profilingSegmentSlots[idx]? with
      | none => some { s with loop := .sleeping }
      | some none => some { s with loop := .passing (idx + 1) }
      | some (some profiler) => some { s with loop := .looking idx profiler }
  | .looking idx profiler =>
      if s.status profiler = .pending then some (s.startProfilingIfNeed idx profiler answer)
      else some { s with loop := .looked idx profiler }
  | .looked idx profiler =>
      if s.status profiler = .profiling then some { s with loop := .dumping idx profiler }
      else some { s with loop := .passing (idx + 1) }
  | .dumping idx profiler =>
      if s.isAlive (s.contexts.get profiler.traceContext).thread then
        some { s with loop := .framing idx profiler }
      else s.giveUp maxParallel task idx profiler
  | .framing idx profiler =>
      if s.isAlive (s.contexts.get profiler.traceContext).thread || answer then
        some { s with loop := .counting idx profiler }
      else s.giveUp maxParallel task idx profiler
  | .counting idx profiler =>
      if (s.profilers.get profiler.attempt).dumpSequence = 0 then
        match s.onSlots maxParallel task .isStartProfileable with
        | none => none
        | some s' =>
            if s'.slots.totalStartedProfilingCnt ≤ task.maxSamplingCount then
              some { s' with loop := .building idx profiler }
            else s'.giveUp maxParallel task idx profiler
      else some { s with loop := .building idx profiler }
  | .building idx profiler => some (s.buildSnapshot idx profiler)
  | .stopping idx _ => s.stopStep maxParallel task idx
  | .ended => none

/-- The state after an action, `none` if the action cannot happen. -/
def step (s : State) : Action → Option State
  | .app action => s.appStep maxParallel task action
  | .profile answer => s.profileStep maxParallel task answer
  | .stopProfiling => some { s with stopEvent := true }

def Step (s : State) (action : Action) (s' : State) : Prop :=
  step maxParallel task s action = some s'

/-- The check of the first dump will refuse the profiler. -/
def State.refusesDump (s : State) (profiler : Profiler) : Bool :=
  decide ((s.profilers.get profiler.attempt).dumpSequence = 0 ∧
    task.maxSamplingCount ≤ s.slots.totalStartedProfilingCnt)

/-- The profile thread meets no request that is over but still has its thread: a profiler whose segment
was archived before the pass is being profiled already when it is looked at, a thread whose segment has
been archived has ended when its stack is read and left its number to no other thread, and no segment is
archived between that and the construction of its snapshot. A profiler that the sampling limit refuses is
no harm. -/
def State.timely (s : State) : Action → Bool
  | .app (.stopSpan context) =>
      decide ((s.contexts.get context).nspans - 1 ≠ 0) ||
        match s.loop with
        | .counting _ profiler =>
            decide (profiler.traceContext ≠ context) || s.refusesDump task profiler
        | .building _ profiler => decide (profiler.traceContext ≠ context)
        | _ => true
  | .profile answer =>
      match s.loop with
      | .looking _ profiler | .looked _ profiler =>
          decide (profiler.traceContext ∉ s.archivedBefore ∨ s.status profiler = .profiling)
      | .framing _ profiler =>
          !(s.contexts.get profiler.traceContext).archived ||
            !(s.isAlive (s.contexts.get profiler.traceContext).thread || answer) ||
            s.refusesDump task profiler
      | _ => true
  | _ => true

end Steps

/-- No snapshot was built for a segment that had been archived. -/
def State.NoLateSnapshot (s : State) : Prop := ∀ snapshot ∈ s.snapshots, snapshot.late = false

/-- At the end of a pass no slot is occupied for a segment that was archived before the pass. -/
def State.Released (s : State) : Prop :=
  s.loop = .sleeping → ∀ (idx : Nat) (profiler : Profiler),
    s.slots.profilingSegmentSlots[idx]? = some (some profiler) →
      profiler.traceContext ∉ s.archivedBefore

/-- The profiler whose `trace_context.profile_status` the action updates. -/
def State.dereferenced (s : State) : Action → Option Profiler
  | .profile elapsed =>
      match s.loop with
      | .looking _ profiler =>
          if s.status profiler = .pending ∧ elapsed = true then some profiler else none
      | .stopping _ _ =>
          match s.slots.stopping with
          | .cleared stopped => some stopped
          | _ => none
      | _ => none
  | _ => none

/-- The context of the profiler holds the status that the profiler tests. -/
def State.Shares (s : State) (profiler : Profiler) : Prop :=
  (s.contexts.get profiler.traceContext).profileStatus =
    some (s.profilers.get profiler.attempt).profileStatus

/-- The action updates no status but the one that the profiler tests; `None` in particular is none. -/
def State.Publishes (s : State) (action : Action) : Prop :=
  ∀ profiler, s.dereferenced action = some profiler → s.Shares profiler

/-- A profiler is not started while the `new_entry_span` that made it has yet to assign its status to
the context. -/
def State.settled (s : State) : Action → Bool
  | .profile elapsed =>
      match s.loop with
      | .looking _ profiler =>
          !elapsed || decide (s.status profiler ≠ .pending) ||
            decide ((s.contexts.get profiler.traceContext).call ≠ .attempting profiler.attempt true)
      | _ => true
  | _ => true

end ProfileThread

end SkyWalking
