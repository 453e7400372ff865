import SkyWalking.Lib.Run

/-!
# The asyncio agent and the threads of the application

`SkyWalkingAgentAsync` between `start` and the end of its event loop, with the calls that plugins, log
handlers and the profiler make from other threads. The event loop runs in a thread of its own, which
creates the loop and the queues after the plugins are active, and `asyncio.run` closes the loop when
its root coroutine returns or raises, at whatever point that is.

The attributes are read one at a time: the test of `is_closed` and the call on the loop are separate
steps, and so are the two reads of `self.loop` before them.
-/

namespace SkyWalking

namespace AgentAsync

structure Config where
  meterReporterActive : Bool
  logReporterActive : Bool
  profileActive : Bool
  deriving DecidableEq, Repr

/-- How far `__start_event_loop_async` has come, in a loop that was created by `asyncio.run`. -/
inductive Phase where
  | created
  | loopSet
  | segmentQueueSet
  | meterQueueSet
  | logQueueSet
  | running
  | closed
  deriving DecidableEq, Repr

inductive Call where
  | isSegmentQueueFull
  | archiveSegment
  | archiveLog
  | archiveMeter
  | addProfilingSnapshot
  deriving DecidableEq, Repr

/-- Where a call is: it has read `self.loop` for the test, it has found that loop open, or it has read
`self.loop` for `call_soon_threadsafe`. -/
inductive Progress where
  | entered
  | read (loop : Nat)
  | tested
  | holding (loop : Nat)
  deriving DecidableEq, Repr

inductive Failure where
  | attributeError
  | runtimeError
  deriving DecidableEq, Repr

/-- `loops` lists the event loops in the order of their creation. `loop` is `none` until the attribute
is assigned for the first time; the queues are `None` until then, and are given by the loop that they
were created in. `raised` lists what calls of the application have raised. -/
structure State where
  begun : Bool
  started : Bool
  installing : Bool
  loops : List Phase
  loop : Option Nat
  segmentQueue : Option Nat
  meterQueue : Option Nat
  logQueue : Option Nat
  snapshotQueue : Option Nat
  calls : List (Call × Progress)
  raised : List (Call × Failure)
  deriving DecidableEq, Repr

def State.init : State :=
  { begun := false
    started := false
    installing := false
    loops := []
    loop := none
    segmentQueue := none
    meterQueue := none
    logQueue := none
    snapshotQueue := none
    calls := []
    raised := [] }

inductive Action where
  | start
  | spawn
  | boot (loop : Nat)
  | close (loop : Nat)
  | stop
  | begin (call : Call)
  | advance (index : Nat)
  deriving DecidableEq, Repr

namespace State

def isClosed (s : State) (loop : Nat) : Bool := s.loops[loop]? = some .closed

/-- `start`, up to the plugins: they are being installed. -/
def start (s : State) : Option State :=
  if s.started then none
  else
    some { s with
      begun := true
      started := true
      installing := true }

/-- The end of `start`: the thread of the event loop is there. -/
def spawn (s : State) : Option State :=
  if s.installing then
    some { s with
      installing := false
      loops := s.loops ++ [.created] }
  else none

/-- The next assignment of `__start_event_loop_async`. -/
def boot (config : Config) (loop : Nat) (s : State) : Option State :=
  match s.loops[loop]? with
  | some .created =>
      some { s with
        loops := s.loops.set loop .loopSet
        loop := some loop }
  | some .loopSet =>
      some { s with
        loops := s.loops.set loop .segmentQueueSet
        segmentQueue := some loop }
  | some .segmentQueueSet =>
      some { s with
        loops := s.loops.set loop .meterQueueSet
        meterQueue := if config.meterReporterActive then some loop else s.meterQueue }
  | some .meterQueueSet =>
      some { s with
        loops := s.loops.set loop .logQueueSet
        logQueue := if config.logReporterActive then some loop else s.logQueue }
  | some .logQueueSet =>
      some { s with
        loops := s.loops.set loop .running
        snapshotQueue := if config.profileActive then some loop else s.snapshotQueue }
  | _ => none

/-- `asyncio.run` is over. -/
def close (loop : Nat) (s : State) : Option State :=
  match s.loops[loop]? with
  | none => none
  | some .closed => none
  | some _ => some { s with loops := s.loops.set loop .closed }

/-- The end of `stop`, which waits for the loop for a limited time only. -/
def stop (s : State) : Option State :=
  if s.started ∧ ¬ s.installing then some { s with started := false } else none

end State

/-- What the next step of a call comes to. -/
inductive CallResult where
  | goOn (progress : Progress)
  | returned
  | raised (failure : Failure)
  deriving DecidableEq, Repr

/-- `self.loop`, which raises if the attribute was never assigned. -/
def State.readLoop (s : State) (next : Nat → Progress) : CallResult :=
  match s.loop with
  | none => .raised .attributeError
  | some loop => .goOn (next loop)

/-- `loop.call_soon_threadsafe(...)`. The queue is an argument for the loop, whatever it is. -/
def State.callSoonThreadsafe (s : State) (loop : Nat) : CallResult :=
  if s.isClosed loop then .raised .runtimeError else .returned

/-- `self.__segment_queue.full()`. -/
def State.isSegmentQueueFull (s : State) : CallResult :=
  match s.segmentQueue with
  | none => .raised .attributeError
  | some _ => .returned

/-- The body that `archive_segment`, `archive_log` and `archive_meter` have in common. -/
def State.archive (s : State) : Progress → CallResult
  | .entered => s.readLoop .read
  | .read loop => if s.isClosed loop then .returned else .goOn .tested
  | .tested => s.readLoop .holding
  | .holding loop => s.callSoonThreadsafe loop

/-- `add_profiling_snapshot` does without the test. -/
def State.addProfilingSnapshot (s : State) : Progress → CallResult
  | .holding loop => s.callSoonThreadsafe loop
  | _ => s.readLoop .holding

def Call.run (s : State) (progress : Progress) : Call → CallResult
  | .isSegmentQueueFull => s.isSegmentQueueFull
  | .archiveSegment => s.archive progress
  | .archiveLog => s.archive progress
  | .archiveMeter => s.archive progress
  | .addProfilingSnapshot => s.addProfilingSnapshot progress

namespace State

/-- A call that has not returned takes its next step. -/
def advance (index : Nat) (s : State) : Option State :=
  match s.calls[index]? with
  | none => none
  | some (call, progress) =>
      match call.run s progress with
      | .goOn next => some { s with calls := s.calls.set index (call, next) }
      | .returned => some { s with calls := s.calls.eraseIdx index }
      | .raised failure =>
          some { s with
            calls := s.calls.eraseIdx index
            raised := s.raised ++ [(call, failure)] }

def step (config : Config) (s : State) : Action → Option State
  | .start => s.start
  | .spawn => s.spawn
  | .boot loop => s.boot config loop
  | .close loop => s.close loop
  | .stop => s.stop
  | .begin call => if s.begun then some { s with calls := s.calls ++ [(call, .entered)] } else none
  | .advance index => s.advance index

end State

/-- The interleavings of the lifecycle with calls from the application. -/
def Step (config : Config) (s : State) (action : Action) (s' : State) : Prop :=
  s.step config action = some s'

/-- The attribute that a call reads first is there, and it is an open loop where the call does not test
that. -/
def Call.inTime (s : State) : Call → Bool
  | .isSegmentQueueFull => s.segmentQueue.isSome
  | .addProfilingSnapshot => s.loop.any fun loop => !s.isClosed loop
  | _ => s.loop.isSome

/-- The call will not notice that a loop gets closed: it holds that loop for `call_soon_threadsafe`, or
it is going to read it behind the test of an open one. -/
def Progress.caughtBy (s : State) (closing : Nat) : Progress → Bool
  | .entered => false
  | .read loop => loop ≠ closing ∧ s.isClosed loop = false ∧ s.loop = some closing
  | .tested => s.loop = some closing
  | .holding loop => loop = closing

/-- No call comes too early, no snapshot too late, and no loop is closed behind the test of a call. -/
def State.calm (s : State) : Action → Bool
  | .advance index =>
      match s.calls[index]? with
      | some (call, .entered) => call.inTime s
      | _ => true
  | .close loop => s.calls.all fun call => !call.2.caughtBy s loop
  | _ => true

end AgentAsync

end SkyWalking
