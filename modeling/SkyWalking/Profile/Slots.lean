import SkyWalking.Lib.Run
import SkyWalking.Profile.Service

/-!
# The profiler slots

`attempt_profiling` runs in any number of application threads, `stop_tracing_profile` in the one profile
thread. They share two atomic counters and an atomic array, and everything may happen between two
operations on these. `[None] * length` is a list of `length` empty slots.
-/

namespace SkyWalking

/-- A `ThreadProfiler`, told apart by the call of `attempt_profiling` that made it. -/
structure Profiler where
  attempt : Nat
  traceContext : Nat
  deriving DecidableEq, Repr

def Profiler.matches (profiler : Profiler) (traceContext : Nat) : Bool :=
  profiler.traceContext == traceContext

namespace ProfileTaskExecutionContext

/-- Where a call of `attempt_profiling` is. -/
inductive Progress where
  | called
  /-- The count was below the limit. -/
  | read (usingSlotCnt : Int)
  /-- The name and the number of started profilings are right. -/
  | checked (usingSlotCnt : Int)
  /-- The count was raised; the next compare-and-set is on this slot. -/
  | scanning (idx : Nat)
  | took (idx : Nat)
  /-- `create_with_none()` was returned before the count was raised. -/
  | refused
  /-- `create_with_none()` was returned after the loop. -/
  | exhausted
  deriving DecidableEq, Repr

structure Attempt where
  traceContext : Nat
  firstSpanOpname : String
  progress : Progress
  deriving DecidableEq, Repr

/-- Where the profile thread is in `stop_tracing_profile`. -/
inductive Stopping where
  | idle
  | scanning (traceContext idx : Nat)
  | found (idx : Nat) (profiler : Profiler)
  /-- The slot is empty. -/
  | cleared (profiler : Profiler)
  /-- `profiler.stop_profiling()` has returned. -/
  | stopped
  deriving DecidableEq, Repr

structure State where
  currentProfilingCnt : Int
  totalStartedProfilingCnt : Int
  profilingSegmentSlots : List (Option Profiler)
  attempts : List Attempt
  stopping : Stopping
  deriving DecidableEq, Repr

def State.init (maxParallel : Nat) : State :=
  { currentProfilingCnt := 0
    totalStartedProfilingCnt := 0
    profilingSegmentSlots := List.replicate maxParallel none
    attempts := []
    stopping := .idle }

def State.setProgress (s : State) (index : Nat) (attempt : Attempt) (progress : Progress) : State :=
  { s with attempts := s.attempts.set index { attempt with progress := progress } }

/-- The next operation of a call of `attempt_profiling`, `none` if it has returned. -/
def State.attemptStep (maxParallel : Nat) (task : ProfileTask) (s : State) (index : Nat)
    (attempt : Attempt) : Option State :=
  match attempt.progress with
  | .called =>
      if s.currentProfilingCnt ≥ maxParallel then some (s.setProgress index attempt .refused)
      else some (s.setProgress index attempt (.read s.currentProfilingCnt))
  | .read usingSlotCnt =>
      if task.firstSpanOpName ≠ attempt.firstSpanOpname then
        some (s.setProgress index attempt .refused)
      else if s.totalStartedProfilingCnt > task.maxSamplingCount then
        some (s.setProgress index attempt .refused)
      else some (s.setProgress index attempt (.checked usingSlotCnt))
  | .checked usingSlotCnt =>
      if s.currentProfilingCnt = usingSlotCnt then
        some { s.setProgress index attempt (.scanning 0) with
          currentProfilingCnt := usingSlotCnt + 1 }
      else some (s.setProgress index attempt .refused)
  | .scanning idx =>
      match s.profilingSegmentSlots[idx]? with
      | none => some (s.setProgress index attempt .exhausted)
      | some none =>
          some { s.setProgress index attempt (.took idx) with
            profilingSegmentSlots :=
              s.profilingSegmentSlots.set idx (some ⟨index, attempt.traceContext⟩) }
      | some (some _) => some (s.setProgress index attempt (.scanning (idx + 1)))
  | .took _ | .refused | .exhausted => none

/-- The next operation of `stop_tracing_profile`, `none` if it is not running. The iteration ends with
the `IndexError` of `__getitem__`. -/
def State.stopStep (s : State) : Option State :=
  match s.stopping with
  | .idle => none
  | .scanning traceContext idx =>
      match s.profilingSegmentSlots[idx]? with
      | none => some { s with stopping := .idle }
      | some none => some { s with stopping := .scanning traceContext (idx + 1) }
      | some (some profiler) =>
          if profiler.matches traceContext then some { s with stopping := .found idx profiler }
          else some { s with stopping := .scanning traceContext (idx + 1) }
  | .found idx profiler =>
      some { s with
        profilingSegmentSlots := s.profilingSegmentSlots.set idx none
        stopping := .cleared profiler }
  | .cleared _ => some { s with stopping := .stopped }
  | .stopped => some { s with currentProfilingCnt := s.currentProfilingCnt - 1, stopping := .idle }

inductive Action where
  | attemptProfiling (traceContext : Nat) (firstSpanOpname : String)
  | attemptStep (index : Nat)
  | stopTracingProfile (traceContext : Nat)
  | stopStep
  | isStartProfileable
  deriving DecidableEq, Repr

/-- The state after an action, `none` if the action cannot happen. -/
def step (maxParallel : Nat) (task : ProfileTask) (s : State) : Action → Option State
  | .attemptProfiling traceContext firstSpanOpname =>
      some { s with attempts := s.attempts ++ [⟨traceContext, firstSpanOpname, .called⟩] }
  | .attemptStep index =>
      match s.attempts[index]? with
      | none => none
      | some attempt => s.attemptStep maxParallel task index attempt
  | .stopTracingProfile traceContext =>
      if s.stopping = .idle then some { s with stopping := .scanning traceContext 0 } else none
  | .stopStep => s.stopStep
  | .isStartProfileable =>
      if s.stopping = .idle then
        some { s with totalStartedProfilingCnt := s.totalStartedProfilingCnt + 1 }
      else none

def Step (maxParallel : Nat) (task : ProfileTask) (s : State) (action : Action) (s' : State) : Prop :=
  step maxParallel task s action = some s'

/-- The slots that hold a profiler. -/
def State.occupied (s : State) : Nat := s.profilingSegmentSlots.countP Option.isSome

def Progress.isScanning : Progress → Bool
  | .scanning _ => true
  | _ => false

/-- The attempts that raised the count and have no slot yet. -/
def State.scanning (s : State) : Nat := s.attempts.countP fun attempt => attempt.progress.isScanning

/-- The slots that were cleared and are still counted. -/
def State.pending (s : State) : Nat :=
  match s.stopping with
  | .cleared _ | .stopped => 1
  | _ => 0

end ProfileTaskExecutionContext

end SkyWalking
