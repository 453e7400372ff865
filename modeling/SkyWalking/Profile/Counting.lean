import Mathlib.Data.Finset.Card
import SkyWalking.Profile.Sampler

/-!
# What a run of a profile task has dumped

`build_snapshot` returns a snapshot, or `None` because the check of the first dump has refused the
profiler. The runs of the profile thread are observed: every step adds what it has dumped to a log.
-/

namespace SkyWalking.ProfileThread

inductive Dump where
  /-- The snapshot of the profiler with this sequence number. -/
  | built (profiler : Profiler) (sequence : Nat)
  /-- `is_start_profileable` has returned `False` for the profiler. -/
  | refused (profiler : Profiler)
  deriving DecidableEq, Repr

def Dump.producer : Dump → Option Profiler
  | .built profiler _ => some profiler
  | .refused _ => none

def Dump.dismissed : Dump → Option Profiler
  | .built _ _ => none
  | .refused profiler => some profiler

def Dump.sequenceOf (profiler : Profiler) : Dump → Option Nat
  | .built producer sequence => if producer = profiler then some sequence else none
  | .refused _ => none

/-- The context and the sequence number of a snapshot. -/
def Dump.snapshot : Dump → Option (Nat × Nat)
  | .built profiler sequence => some (profiler.traceContext, sequence)
  | .refused _ => none

/-- The profilers that have produced a snapshot. -/
def producers (dumps : List Dump) : Finset Profiler := (dumps.filterMap Dump.producer).toFinset

/-- The profilers that were refused, in the order in which they were. -/
def dismissed (dumps : List Dump) : List Profiler := dumps.filterMap Dump.dismissed

/-- The sequence numbers of the snapshots of a profiler, in the order in which they were built. -/
def sequences (profiler : Profiler) (dumps : List Dump) : List Nat :=
  dumps.filterMap (Dump.sequenceOf profiler)

/-- What `add_profiling_snapshot` was called with. -/
def snapshots (dumps : List Dump) : List (Nat × Nat) := dumps.filterMap Dump.snapshot

/-- What an action dumps. -/
def State.dump (task : ProfileTask) (s : State) : Action → List Dump
  | .profile _ =>
      match s.loop with
      | .building _ profiler => [.built profiler (s.profilers.get profiler.attempt).dumpSequence]
      | .counting _ profiler => if s.refusesDump task profiler then [.refused profiler] else []
      | _ => []
  | _ => []

structure Observed where
  state : State
  dumps : List Dump

def Observed.init (maxParallel : Nat) : Observed := { state := .init maxParallel, dumps := [] }

def observe (maxParallel : Nat) (task : ProfileTask) (o : Observed) (action : Action) :
    Option Observed :=
  (step maxParallel task o.state action).map fun s =>
    { state := s, dumps := o.dumps ++ o.state.dump task action }

def Observe (maxParallel : Nat) (task : ProfileTask) (o : Observed) (action : Action) (o' : Observed) :
    Prop :=
  observe maxParallel task o action = some o'

/-- The call of `attempt_profiling` has not been made, or has yet to pass the check of the number of
started profilings, or was refused. -/
def State.Unadmitted (s : State) (attempt : Nat) : Prop :=
  s.progress attempt = none ∨ s.progress attempt = some .called ∨
    (∃ usingSlotCnt, s.progress attempt = some (.read usingSlotCnt)) ∨
    s.progress attempt = some .refused

def Action.isProfile : Action → Bool
  | .profile _ => true
  | .app _ | .stopProfiling => false

/-- The profile thread of a stopped task: as long as it has not ended it can go on, whatever it reads; it
takes no more of its own steps than a pass over all slots needs, and adds a snapshot for each slot at most. -/
structure WindsUp (maxParallel : Nat) (task : ProfileTask) (stopped : State) (actions : List Action)
    (s : State) : Prop where
  goesOn : s.loop ≠ .ended → ∀ elapsed, (s.profileStep maxParallel task elapsed).isSome
  steps : actions.countP Action.isProfile ≤ maxParallel * (maxParallel + 10) + 2
  snapshots : s.snapshots.length ≤ stopped.snapshots.length + maxParallel

end SkyWalking.ProfileThread
