import SkyWalking.Lib.Run
import SkyWalking.Meter.Meter

/-!
# The meter service

A meter is registered under its name. A round walks through the map and hands every meter to a worker (a
thread of a pool, or a task on the event loop), which transforms and archives the meters in this order.
Other threads build and update meters at any time, also during the walk of a round. Building a meter that
is already there under its name replaces it, in its place.
-/

namespace SkyWalking.MeterService

/-- A round of `send`; `built` meters had been built when it began. -/
structure Round (α : Type) where
  built : Nat
  /-- What was archived, with the number of the meter that it was made of. -/
  archived : List (Nat × MeterData α) := []

/-- The iterator of a round over the values of the map, which had this size when it was made. -/
structure Walk where
  round : Nat
  size : Nat
  position : Nat := 0
  deriving DecidableEq, Repr

structure State (α : Type) [LinearOrder α] where
  /-- All meters that were built. -/
  meters : List (Meter α)
  /-- In the order of insertion. -/
  meterMap : List (String × Nat)
  rounds : List (Round α)
  walk : Option Walk
  /-- The meters handed to the worker, with the rounds they belong to. -/
  pending : List (Nat × Nat)
  /-- An exception has left `send`, and with it `run`. -/
  ended : Bool

inductive Action (α : Type) [LinearOrder α] where
  | build (name : String) (kind : MeterKind α) (tags added : List (String × String))
  | increment (meter : Nat) (value : α)
  | addValue (meter : Nat) (value : α)
  | send
  /-- The next value of the iteration. -/
  | submit
  /-- The worker archives the next meter. -/
  | archive (currentMilliTime : Int)

section Steps

variable {α : Type} [LinearOrder α]

def State.init : State α :=
  { meters := []
    meterMap := []
    rounds := []
    walk := none
    pending := []
    ended := false }

/-- `self.meter_map[name] = meter`. -/
def assign (meterMap : List (String × Nat)) (name : String) (meter : Nat) : List (String × Nat) :=
  if name ∈ meterMap.map Prod.fst then
    meterMap.map fun entry => if entry.1 = name then (name, meter) else entry
  else meterMap ++ [(name, meter)]

def State.register (s : State α) (meter : Meter α) : State α :=
  { s with
    meters := s.meters ++ [meter]
    meterMap := assign s.meterMap meter.getName s.meters.length }

/-- The iteration raises `RuntimeError` if the size of the map has changed; the meters that were handed
over are archived all the same. -/
def State.submit (s : State α) : Option (State α) :=
  match s.walk with
  | none => none
  | some walk =>
      if s.meterMap.length ≠ walk.size then some { s with walk := none, ended := true }
      else
        match s.meterMap[walk.position]? with
        | none => some { s with walk := none }
        | some (_, meter) =>
            some { s with
              walk := some { walk with position := walk.position + 1 }
              pending := s.pending ++ [(walk.round, meter)] }

/-- `MeterService` and `MeterServiceAsync`. -/
inductive Mode where
  | sync
  | async
  deriving DecidableEq, Repr

/-- A round of the sync service waits for the worker. -/
def State.mayBegin (s : State α) : Mode → Bool
  | .sync => decide (s.walk = none ∧ s.pending = []) && !s.ended
  | .async => decide (s.walk = none) && !s.ended

/-- The tasks of the event loop wait until a round has walked through the map. -/
def State.mayArchive (s : State α) : Mode → Bool
  | .sync => true
  | .async => decide (s.walk = none)

variable [Zero α] [Add α] [Sub α]

/-- `archive`, with `config.agent_name` and `config.agent_instance_name`. -/
def State.archive (s : State α) (agentName agentInstanceName : String) (currentMilliTime : Int) :
    Option (State α) :=
  match s.pending with
  | [] => none
  | (round, number) :: rest =>
      match s.meters[number]? with
      | none => none
      | some meter =>
          let (metric, transformed) := meter.transform
          let data := ⟨metric, agentName, agentInstanceName, currentMilliTime⟩
          some { s with
            meters := s.meters.set number transformed
            rounds := s.rounds.modify round fun r =>
              { r with archived := r.archived ++ [(number, data)] }
            pending := rest }

/-- The state after an action, `none` if the action cannot happen. -/
def step (mode : Mode) (agentName agentInstanceName : String) (s : State α) :
    Action α → Option (State α)
  | .build name kind tags added => some (s.register (.build name kind tags added))
  | .increment meter value => some { s with meters := s.meters.modify meter (·.increment value) }
  | .addValue meter value => some { s with meters := s.meters.modify meter (·.addValue value) }
  | .send =>
      if s.mayBegin mode then
        some { s with
          rounds := s.rounds ++ [{ built := s.meters.length }]
          walk := some { round := s.rounds.length, size := s.meterMap.length } }
      else none
  | .submit => s.submit
  | .archive currentMilliTime =>
      if s.mayArchive mode then s.archive agentName agentInstanceName currentMilliTime else none

def Step (mode : Mode) (agentName agentInstanceName : String) (s : State α) (action : Action α)
    (s' : State α) : Prop :=
  step mode agentName agentInstanceName s action = some s'

/-- No meter is built under the name of another one, or while a round walks through the map. -/
def State.Fresh (s : State α) : Action α → Prop
  | .build name _ _ _ => name ∉ s.meters.map Meter.getName ∧ s.walk = none
  | _ => True

instance (s : State α) (action : Action α) : Decidable (s.Fresh action) :=
  match action with
  | .build name _ _ _ =>
      inferInstanceAs (Decidable (name ∉ s.meters.map Meter.getName ∧ s.walk = none))
  | .increment .. | .addValue .. | .send | .submit | .archive _ => isTrue trivial

end Steps

end SkyWalking.MeterService
