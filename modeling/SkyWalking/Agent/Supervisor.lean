import Mathlib.Data.List.Dedup
import Mathlib.Logic.Function.Basic
import SkyWalking.Lib.Run

/-!
# The supervisor of the asyncio agent

`_await_shutdown_or_background_failure` and then `_cancel_pending_tasks`, in the root coroutine of an
event loop that runs background tasks. The root gives way to the tasks only where it awaits; what it
does between two awaits is one step. `asyncio.wait` always gives way, and looks at the tasks when it
goes on.
-/

namespace SkyWalking

namespace Supervisor

structure Exc where
  type : String
  message : String
  deriving DecidableEq, Repr

inductive Outcome where
  | returned
  | raised (exc : Exc)
  | cancelled
  deriving DecidableEq, Repr

/-- A task of the event loop; `outcome` is `none` until it is done. -/
structure Task where
  outcome : Option Outcome
  outcomeHandled : Bool
  cancelRequested : Bool
  deriving DecidableEq, Repr

def Task.new : Task := ⟨none, false, false⟩

namespace Task

def done (task : Task) : Bool := task.outcome.isSome

def finish (outcome : Outcome) (task : Task) : Task := { task with outcome := some outcome }

/-- `_sw_outcome_handled = True`. -/
def mark (task : Task) : Task := { task with outcomeHandled := true }

def cancel (task : Task) : Task := { task with cancelRequested := true }

end Task

def unexpectedCancellation : Exc :=
  ⟨"RuntimeError", "Python agent asyncio background task was cancelled unexpectedly"⟩

def unexpectedCompletion : Exc :=
  ⟨"RuntimeError", "Python agent asyncio background task finished unexpectedly"⟩

def retrieveBackgroundTaskOutcome (reportUnexpectedCompletion reportUnexpectedCancellation : Bool) :
    Option Task → Option Exc
  | none => none
  | some task =>
      match task.outcome with
      | none => none
      | some .cancelled => if reportUnexpectedCancellation then some unexpectedCancellation else none
      | some (.raised exc) => some exc
      | some .returned => if reportUnexpectedCompletion then some unexpectedCompletion else none

/-- An error in the log. `finished` says whether the event was set when it was logged. -/
structure ErrorRecord where
  task : Nat
  exc : Exc
  finished : Bool
  deriving DecidableEq, Repr

/-- Where the root coroutine is: it awaits one of the tasks, `finished`, its own `shutdown_waiter` or
the tasks that it has cancelled, or it is between two of the calls. -/
inductive Phase where
  | entered
  | waiting
  | waitingFinished
  | closing
  | returned
  | gathering (pending : List Nat)
  | cleaned
  deriving DecidableEq, Repr

/-- Tasks are numbered; `current` is the root. The background tasks are listed in the order in which
the cleanup iterates over them. `early` has the tasks that were done before `finished` was set, `left`
the background tasks that were not done when the cleanup began, and `warnings` the numbers of tasks
still pending after a timeout. -/
structure State where
  current : Nat
  backgroundTasks : List (Option Nat)
  task : Nat → Task
  finished : Bool
  waiterDone : Bool
  waiterCancelled : Bool
  pending : List Nat
  phase : Phase
  errors : List ErrorRecord
  warnings : List Nat
  early : List Nat
  left : List Nat

def State.init (current : Nat) (backgroundTasks : List (Option Nat)) : State :=
  { current := current
    backgroundTasks := backgroundTasks
    task := fun _ => .new
    finished := false
    waiterDone := false
    waiterCancelled := false
    pending := []
    phase := .entered
    errors := []
    warnings := []
    early := []
    left := [] }

/-- What the event loop and the root do: a task or the `shutdown_waiter` ends, someone sets `finished`,
and the root goes on. `asyncio.wait` returns a set, which is iterated over in any order. -/
inductive Label where
  | ends (task : Nat) (outcome : Outcome)
  | set
  | waiterEnds
  | supervise
  | wake (done : List Nat)
  | released
  | closed
  | cleanup
  | gathered
  | timedOut
  deriving DecidableEq, Repr

namespace State

def isDone (s : State) (task : Nat) : Bool := (s.task task).done

def update (task : Nat) (f : Task → Task) (s : State) : Nat → Task :=
  Function.update s.task task (f (s.task task))

/-- The outcome is marked as handled, and logged. -/
def record (task : Nat) (exc : Exc) (s : State) : State :=
  { s with
    task := s.update task Task.mark
    errors := s.errors ++ [⟨task, exc, s.finished⟩] }

def logBackgroundTaskOutcome (reportUnexpectedCompletion reportUnexpectedCancellation : Bool)
    (task : Nat) (s : State) : Bool × State :=
  if (s.task task).outcomeHandled then (false, s)
  else
    match retrieveBackgroundTaskOutcome reportUnexpectedCompletion reportUnexpectedCancellation
        (some (s.task task)) with
    | none => (false, s)
    | some exc => (true, s.record task exc)

/-- The `finally` clause. -/
def close (s : State) : State :=
  if s.waiterDone then { s with phase := .returned }
  else
    { s with
      waiterCancelled := true
      phase := .closing }

/-- The head of the `while` loop. -/
def loop (s : State) : State :=
  if s.finished then s.close
  else if s.pending.isEmpty then { s with phase := .waitingFinished }
  else { s with phase := .waiting }

/-- The call of the supervisor, up to its first `await`. -/
def supervise (s : State) : Option State :=
  match s.phase with
  | .entered => some { s with pending := (s.backgroundTasks.filterMap id).dedup }.loop
  | _ => none

/-- The `for` loop over the tasks that are done, and what follows it. -/
def superviseDone : List Nat → State → State
  | [], s => s.loop
  | task :: rest, s =>
      match { s with pending := s.pending.erase task }.logBackgroundTaskOutcome true true task with
      | (true, s) => { s with finished := true }.close
      | (false, s) => superviseDone rest s

/-- `asyncio.wait` returns. -/
def wake (done : List Nat) (s : State) : Option State :=
  match s.phase with
  | .waiting =>
      if done.Perm (s.pending.filter s.isDone) ∧ (s.waiterDone ∨ done ≠ []) then
        if s.waiterDone ∨ s.finished then some s.close else some (s.superviseDone done)
      else none
  | _ => none

/-- `finished.wait()` returns. -/
def released (s : State) : Option State :=
  match s.phase with
  | .waitingFinished => if s.finished then some s.close else none
  | _ => none

/-- `await shutdown_waiter` is over. -/
def closed (s : State) : Option State :=
  match s.phase with
  | .closing => if s.waiterDone then some { s with phase := .returned } else none
  | _ => none

/-- The tasks that the cleanup is about. -/
def owned (s : State) : List Nat :=
  (s.backgroundTasks.filterMap id).filter (· ≠ s.current)

def logOutcome (s : State) (task : Nat) : State := (s.logBackgroundTaskOutcome false false task).2

def logDone (s : State) (task : Nat) : State := if s.isDone task then s.logOutcome task else s

def cancel (s : State) (task : Nat) : State := { s with task := s.update task Task.cancel }

/-- Behind the first loop of the cleanup. -/
def cancelPending (s : State) : State :=
  let pending := s.owned.filter fun task => !s.isDone task
  if pending.isEmpty then { s with phase := .cleaned }
  else { pending.foldl cancel s with phase := .gathering pending }

/-- The call of `_cancel_pending_tasks`, up to its `await`. -/
def cancelPendingTasks (s : State) : Option State :=
  match s.phase with
  | .returned =>
      some (s.owned.foldl logDone
        { s with left := (s.backgroundTasks.filterMap id).filter fun task => !s.isDone task }).cancelPending
  | _ => none

/-- The last loop of the cleanup. -/
def finishCleanup (pending : List Nat) (s : State) : State :=
  { pending.foldl logOutcome s with phase := .cleaned }

/-- All the tasks are done in time. -/
def gathered (s : State) : Option State :=
  match s.phase with
  | .gathering pending => if pending.all s.isDone then some (s.finishCleanup pending) else none
  | _ => none

/-- `asyncio.TimeoutError`. -/
def timedOut (s : State) : Option State :=
  match s.phase with
  | .gathering pending =>
      some ({ s with warnings := s.warnings ++ [pending.countP fun task => !s.isDone task] }.finishCleanup
        pending)
  | _ => none

/-- A task ends. The root does not, as long as it runs these functions. -/
def ends (task : Nat) (outcome : Outcome) (s : State) : Option State :=
  if s.isDone task ∨ task = s.current then none
  else
    some { s with
      task := s.update task (Task.finish outcome)
      early := if s.finished then s.early else task :: s.early }

/-- The `shutdown_waiter` ends, because `finished` is set or because it was cancelled. -/
def waiterEnds (s : State) : Option State :=
  if s.phase ≠ .entered ∧ ¬ s.waiterDone ∧ (s.finished ∨ s.waiterCancelled) then
    some { s with waiterDone := true }
  else none

/-- Nothing that happens after the cleanup is of interest. -/
def step (s : State) (label : Label) : Option State :=
  if s.phase = .cleaned then none
  else
    match label with
    | .ends task outcome => s.ends task outcome
    | .set => some { s with finished := true }
    | .waiterEnds => s.waiterEnds
    | .supervise => s.supervise
    | .wake done => s.wake done
    | .released => s.released
    | .closed => s.closed
    | .cleanup => s.cancelPendingTasks
    | .gathered => s.gathered
    | .timedOut => s.timedOut

end State

/-- The interleavings of the root with its background tasks. -/
def Step (s : State) (label : Label) (s' : State) : Prop := s.step label = some s'

/-- The supervisor has returned. -/
def Phase.supervised : Phase → Bool
  | .returned | .gathering _ | .cleaned => true
  | _ => false

/-- The cleanup has reached its `await`, or has returned. -/
def Phase.cancelled : Phase → Bool
  | .gathering _ | .cleaned => true
  | _ => false

def Outcome.isRaised : Outcome → Bool
  | .raised _ => true
  | _ => false

namespace State

/-- The task has ended with an exception. -/
def raised (s : State) (task : Nat) : Bool := (s.task task).outcome.any Outcome.isRaised

def recordsOf (s : State) (task : Nat) : List ErrorRecord :=
  s.errors.filter fun record => record.task = task

end State

/-- The supervisor returns after `finished` was set. When the cleanup returns, the log has exactly one
record of each background task that has raised. Other outcomes are logged before `finished` is set
only, and at most one of them. There is no error unless a background task raises, or is done before
`finished` is set. The tasks that were not done when the cleanup began were cancelled. -/
structure Supervised (s : State) : Prop where
  returns : s.phase.supervised = true → s.finished = true
  once : s.phase = .cleaned → ∀ task exc, some task ∈ s.backgroundTasks →
    (s.task task).outcome = some (.raised exc) → ∃ finished, s.recordsOf task = [⟨task, exc, finished⟩]
  noticed : ∀ record ∈ s.errors, s.raised record.task = false → record.finished = false
  single : (s.errors.filter fun record => !s.raised record.task).length ≤ 1
  quiet : (∀ task, some task ∈ s.backgroundTasks → s.raised task = false ∧ task ∉ s.early) →
    s.errors = []
  cancelled : s.phase.cancelled = true → ∀ task ∈ s.left, task ≠ s.current →
    (s.task task).cancelRequested = true

end Supervisor

end SkyWalking
