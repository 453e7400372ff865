import SkyWalking.Lib.Run
import SkyWalking.Report.Sync

/-!
# Registering the instance properties

`heartbeat` and the connectivity callback of the two gRPC protocols, and `refresh_instance_props`. The
heartbeat and the callback share a flag and a counter without a lock.

In the sync protocol the callback runs in a thread of the channel and its steps fall between those of
the heartbeat in any way; the channel delivers one callback at a time. In the asyncio protocol it runs
at once, whenever the heartbeat awaits the answer to an RPC or does not run, be it from the watch or
from a look at the state in `is_ready`.
-/

namespace SkyWalking

namespace Heartbeat

inductive Variant where
  | sync
  | aio
  deriving DecidableEq, Repr

/-- How an RPC ends. Of what it raises, `heartbeat` and `send_heart_beat` handle `RpcError` only. -/
inductive Outcome where
  | ok
  | rpcError
  | otherError
  deriving DecidableEq, Repr

/-- Where the heartbeat is. An RPC that sends the instance properties notes how many transitions had
been delivered when it was issued. -/
inductive Beat where
  | idle
  | ready
  | registering (issued : Nat)
  | registered
  | beating
  | counting (read : Int)
  | counted
  | refreshing (issued : Nat)
  | pinging
  deriving DecidableEq, Repr

/-- Where the callback of the sync protocol is. -/
inductive Callback where
  | idle
  | entered (prev : Option Connectivity) (state : Connectivity)
  | cleared (state : Connectivity)
  | restarted (state : Connectivity)
  deriving DecidableEq, Repr

/-- A heartbeat that is over: whether the properties were owed when it started, and whether it has sent
them. -/
structure Record where
  owed : Bool
  sent : Bool
  deriving DecidableEq, Repr

/-- `delivered` counts the transitions from READY to another state, `lastIssue` is what it was when the
last `send_instance_props` that succeeded was issued. `owed` and `sent` are about the heartbeat that
runs. -/
structure State where
  state : Option Connectivity
  propertiesSent : Bool
  sentPropertiesCounter : Int
  callback : Callback
  beat : Beat
  delivered : Nat
  lastIssue : Nat
  owed : Bool
  sent : Bool
  beats : List Record

def State.init : State :=
  { state := none
    propertiesSent := false
    sentPropertiesCounter := 0
    callback := .idle
    beat := .idle
    delivered := 0
    lastIssue := 0
    owed := false
    sent := false
    beats := [] }

inductive Label where
  | start
  | advance
  | answer (outcome : Outcome)
  | deliver (state : Connectivity)
  | callback
  deriving DecidableEq, Repr

/-- The condition under which the callback clears the flag. -/
def leavesReady (prev : Option Connectivity) (state : Connectivity) : Bool :=
  prev = some .READY ∧ state ≠ .READY

/-- The coroutine of the heartbeat gives way to others. -/
def Beat.awaits : Beat → Bool
  | .idle | .registering _ | .refreshing _ | .pinging => true
  | _ => false

namespace State

/-- A transition was delivered after the last successful `send_instance_props` was issued. -/
def isOwed (s : State) : Bool := s.lastIssue < s.delivered

/-- The call of `send_instance_props`. -/
def issue (rpc : Nat → Beat) (s : State) : State :=
  { s with
    beat := rpc s.delivered
    sent := true }

/-- The heartbeat returns or raises. -/
def finish (s : State) : State :=
  { s with
    beat := .idle
    beats := s.beats ++ [⟨s.owed, s.sent⟩] }

/-- `is_ready`, with which a heartbeat starts. -/
def start (s : State) : Option State :=
  match s.beat with
  | .idle =>
      if s.state = some .READY then
        some { s with
          beat := .ready
          owed := s.isOwed
          sent := false }
      else some s
  | _ => none

/-- The steps of `heartbeat`, `send_heart_beat` and `refresh_instance_props` between the RPCs. A period
factor of zero raises outside of every `except`. -/
def advance (factor : Int) (s : State) : Option State :=
  match s.beat with
  | .ready =>
      if s.propertiesSent then some { s with beat := .beating }
      else some (s.issue .registering)
  | .registered =>
      some { s with
        propertiesSent := true
        beat := .beating }
  | .beating => some { s with beat := .counting s.sentPropertiesCounter }
  | .counting read =>
      some { s with
        sentPropertiesCounter := read + 1
        beat := .counted }
  | .counted =>
      if factor = 0 then some s.finish
      else if s.sentPropertiesCounter.fmod factor = 0 then some (s.issue .refreshing)
      else some { s with beat := .pinging }
  | _ => none

/-- What the heartbeat makes of the end of an RPC. -/
def answer (outcome : Outcome) (s : State) : Option State :=
  match s.beat, outcome with
  | .registering issued, .ok =>
      some { s with
        lastIssue := issued
        beat := .registered }
  | .registering _, .rpcError => some { s with beat := .beating }
  | .registering _, .otherError => some s.finish
  | .refreshing issued, .ok =>
      some { s with
        lastIssue := issued
        beat := .pinging }
  | .refreshing _, .rpcError => some { s with beat := .pinging }
  | .refreshing _, .otherError => some s.finish
  | .pinging, _ => some s.finish
  | _, _ => none

/-- `properties_sent = False`, with which a transition counts as delivered. -/
def clear (s : State) : State :=
  { s with
    propertiesSent := false
    delivered := s.delivered + 1 }

def onConnectivity (state : Connectivity) (s : State) : State :=
  if leavesReady s.state state then
    { s.clear with
      sentPropertiesCounter := 0
      state := some state }
  else { s with state := some state }

/-- A connectivity state reaches the protocol: `_cb` starts, or `_on_connectivity` runs. -/
def deliver (variant : Variant) (state : Connectivity) (s : State) : Option State :=
  match variant with
  | .sync =>
      match s.callback with
      | .idle => some { s with callback := .entered s.state state }
      | _ => none
  | .aio => if s.beat.awaits then some (s.onConnectivity state) else none

/-- The next step of `_cb`. -/
def stepCallback (s : State) : Option State :=
  match s.callback with
  | .idle => none
  | .entered prev state =>
      if leavesReady prev state then some { s.clear with callback := .cleared state }
      else
        some { s with
          state := some state
          callback := .idle }
  | .cleared state =>
      some { s with
        sentPropertiesCounter := 0
        callback := .restarted state }
  | .restarted state =>
      some { s with
        state := some state
        callback := .idle }

def step (variant : Variant) (factor : Int) (s : State) : Label → Option State
  | .start => s.start
  | .advance => s.advance factor
  | .answer outcome => s.answer outcome
  | .deliver state => s.deliver variant state
  | .callback => s.stepCallback

end State

/-- The interleavings of the heartbeat with connectivity callbacks. -/
def Step (variant : Variant) (factor : Int) (s : State) (label : Label) (s' : State) : Prop :=
  s.step variant factor label = some s'

/-- The heartbeat is between the issue of its `send_instance_props` and the assignment to the flag. -/
def Beat.registers : Beat → Bool
  | .registering _ | .registered => true
  | _ => false

/-- The step clears the flag. -/
def State.clears (variant : Variant) (s : State) : Label → Bool
  | .deliver state => variant = .aio ∧ leavesReady s.state state
  | .callback =>
      match s.callback with
      | .entered prev state => leavesReady prev state
      | _ => false
  | _ => false

/-- Either every heartbeat refreshes the properties, or the flag is not cleared while a heartbeat is
about to set it. -/
def State.undisturbed (variant : Variant) (factor : Int) (s : State) (label : Label) : Bool :=
  factor.natAbs = 1 ∨ ¬ (s.clears variant label ∧ s.beat.registers)

/-- Callbacks run between heartbeats only, and RPCs end well or with `RpcError`. -/
def State.separate (s : State) : Label → Bool
  | .start => s.callback = .idle
  | .advance => true
  | .answer outcome => outcome ≠ .otherError
  | .deliver _ | .callback => s.beat = .idle

/-- How many steps a heartbeat has left at most. -/
def Beat.left : Beat → Nat
  | .idle => 0
  | .pinging => 1
  | .refreshing _ => 2
  | .counted => 3
  | .counting _ => 4
  | .beating => 5
  | .registered => 6
  | .registering _ => 7
  | .ready => 8

/-- Any `k` heartbeats in a row have one that tries to send the properties. A heartbeat goes on whatever
its RPCs come to, has fewer steps left after each of them, and ends when its `keepAlive` is over and not
before. -/
structure Cadence (variant : Variant) (k : Nat) (s : State) : Prop where
  refreshed : ∀ before window after, s.beats = before ++ window ++ after → window.length = k →
    ∃ beat ∈ window, beat.sent = true
  goes_on : s.beat ≠ .idle → (∃ s', Step variant k s .advance s') ∨
    ∀ outcome, ∃ s', Step variant k s (.answer outcome) s'
  descends : s.beat ≠ .idle → ∀ label s', s.separate label = true → Step variant k s label s' →
    s'.beat.left < s.beat.left
  pinged : ∀ label s', s.separate label = true → Step variant k s label s' →
    s'.beats ≠ s.beats → s.beat = .pinging

end Heartbeat

end SkyWalking
