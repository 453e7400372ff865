import SkyWalking.Lib.Queue
import SkyWalking.Lib.Run
import SkyWalking.Lib.Window
import SkyWalking.Report.Encode

/-!
# The command service

The backend answers a query with a batch of commands. A receiver reads the batch, drops the commands that
were executed already and puts the others into a queue; the dispatcher takes them from there, tests them
again and executes them. The threads of the sync service interleave at every step; a coroutine of the
asyncio service keeps the event loop until it suspends.
-/

namespace SkyWalking

/-- The message of the backend. -/
structure Command where
  command : String
  args : List KeyStringValuePair
  deriving DecidableEq, Repr

/-- The fields are the texts of the message; a key that is missing leaves `None`. -/
structure ProfileTaskCommand where
  serialNumber : Option String := none
  taskId : Option String := none
  endpointName : Option String := none
  duration : Option String := none
  minDurationThreshold : Option String := none
  dumpPeriod : Option String := none
  maxSamplingCount : Option String := none
  startTime : Option String := none
  createTime : Option String := none
  deriving DecidableEq, Repr

namespace ProfileTaskCommand

def name : String := "ProfileTaskQuery"

/-- The body of the loop over `command.args`; a key that comes twice keeps its last value. -/
def readPair (c : ProfileTaskCommand) (pair : KeyStringValuePair) : ProfileTaskCommand :=
  if pair.key = "SerialNumber" then { c with serialNumber := some pair.value }
  else if pair.key = "EndpointName" then { c with endpointName := some pair.value }
  else if pair.key = "TaskId" then { c with taskId := some pair.value }
  else if pair.key = "Duration" then { c with duration := some pair.value }
  else if pair.key = "MinDurationThreshold" then { c with minDurationThreshold := some pair.value }
  else if pair.key = "DumpPeriod" then { c with dumpPeriod := some pair.value }
  else if pair.key = "MaxSamplingCount" then { c with maxSamplingCount := some pair.value }
  else if pair.key = "StartTime" then { c with startTime := some pair.value }
  else if pair.key = "CreateTime" then { c with createTime := some pair.value }
  else c

def deserialize (command : Command) : ProfileTaskCommand := command.args.foldl readPair {}

end ProfileTaskCommand

/-- The error is the command of the `UnsupportedCommandException`. -/
def CommandDeserializer.deserialize (command : Command) : Except Command ProfileTaskCommand :=
  if ProfileTaskCommand.name = command.command then
    .ok (ProfileTaskCommand.deserialize command)
  else .error command

structure CommandSerialNumberCache where
  maxlen : Nat := 64
  queue : List (Option String) := []
  deriving DecidableEq, Repr

def CommandSerialNumberCache.add (cache : CommandSerialNumberCache) (number : Option String) :
    CommandSerialNumberCache :=
  { cache with queue := Window.push cache.maxlen cache.queue number }

def CommandSerialNumberCache.contains (cache : CommandSerialNumberCache)
    (number : Option String) : Bool :=
  decide (number ∈ cache.queue)

namespace CommandService

/-- The supported commands are numbered as they are read from their batches. -/
structure Receipt where
  number : Nat
  command : ProfileTaskCommand
  deriving DecidableEq, Repr

def Receipt.serialNumber (receipt : Receipt) : Option String := receipt.command.serialNumber

inductive Place where
  | reception
  | dispatch
  deriving DecidableEq, Repr

/-- A test of a serial number against the cache, with what had been executed when it was made. -/
structure Test where
  receipt : Receipt
  place : Place
  /-- All commands executed. -/
  executed : List Receipt
  /-- Those of them whose serial numbers have been added to the cache. -/
  recorded : List Receipt
  skipped : Bool
  deriving DecidableEq, Repr

/-- Where a call of `receive_command` is in its loop. -/
inductive Stage where
  | next
  | read (receipt : Receipt)
  | passed (receipt : Receipt)
  deriving DecidableEq, Repr

structure Receiver where
  batch : List Command
  stage : Stage
  deriving DecidableEq, Repr

/-- Where `dispatch` is in its loop. -/
inductive Dispatcher where
  | waiting
  | took (receipt : Receipt)
  | passed (receipt : Receipt)
  | ran (receipt : Receipt)
  deriving DecidableEq, Repr

structure State where
  commands : List Receipt
  cache : CommandSerialNumberCache
  receivers : List Receiver
  dispatcher : Dispatcher
  received : List Receipt
  enqueued : List Receipt
  executed : List Receipt
  tests : List Test
  deriving DecidableEq, Repr

def State.init : State :=
  { commands := []
    cache := {}
    receivers := []
    dispatcher := .waiting
    received := []
    enqueued := []
    executed := []
    tests := [] }

/-- A command counts as recorded from its `add` on. -/
def State.recorded (s : State) : List Receipt :=
  match s.dispatcher with
  | .ran _ => s.executed.dropLast
  | _ => s.executed

def State.isCommandExecuted (s : State) (receipt : Receipt) : Bool :=
  s.cache.contains receipt.serialNumber

def State.logTest (s : State) (place : Place) (receipt : Receipt) : State :=
  { s with
    tests := s.tests ++ [⟨receipt, place, s.executed, s.recorded, s.isCommandExecuted receipt⟩] }

def State.setReceiver (s : State) (index : Nat) (receiver : Receiver) : State :=
  { s with receivers := s.receivers.set index receiver }

/-- The next step of a call of `receive_command`; the queue has no bound. -/
def State.receiverStep (s : State) (index : Nat) (receiver : Receiver) : Option State :=
  match receiver.stage with
  | .next =>
      match receiver.batch with
      | [] => none
      | command :: rest =>
          match CommandDeserializer.deserialize command with
          | .error _ => some (s.setReceiver index ⟨rest, .next⟩)
          | .ok baseCommand =>
              let receipt := ⟨s.received.length, baseCommand⟩
              some { s.setReceiver index ⟨rest, .read receipt⟩ with
                received := s.received ++ [receipt] }
  | .read receipt =>
      if s.isCommandExecuted receipt then
        some ((s.logTest .reception receipt).setReceiver index ⟨receiver.batch, .next⟩)
      else some ((s.logTest .reception receipt).setReceiver index ⟨receiver.batch, .passed receipt⟩)
  | .passed receipt =>
      match Queue.put 0 s.commands receipt with
      | some commands =>
          some { s.setReceiver index ⟨receiver.batch, .next⟩ with
            commands := commands
            enqueued := s.enqueued ++ [receipt] }
      | none => some (s.setReceiver index ⟨receiver.batch, .next⟩)

/-- The next step of `dispatch`, `none` while it waits on an empty queue. -/
def State.dispatcherStep (s : State) : Option State :=
  match s.dispatcher with
  | .waiting =>
      match s.commands with
      | [] => none
      | receipt :: rest => some { s with commands := rest, dispatcher := .took receipt }
  | .took receipt =>
      if s.isCommandExecuted receipt then
        some { s.logTest .dispatch receipt with dispatcher := .waiting }
      else some { s.logTest .dispatch receipt with dispatcher := .passed receipt }
  | .passed receipt =>
      some { s with executed := s.executed ++ [receipt], dispatcher := .ran receipt }
  | .ran receipt =>
      some { s with cache := s.cache.add receipt.serialNumber, dispatcher := .waiting }

inductive Action where
  | receiveCommand (batch : List Command)
  | receiver (index : Nat)
  | dispatcher

def step (s : State) : Action → Option State
  | .receiveCommand batch => some { s with receivers := s.receivers ++ [⟨batch, .next⟩] }
  | .receiver index =>
      match s.receivers[index]? with
      | none => none
      | some receiver => s.receiverStep index receiver
  | .dispatcher => s.dispatcherStep

def Receiver.Returned (receiver : Receiver) : Prop := receiver.batch = [] ∧ receiver.stage = .next

/-- `CommandService` and `CommandServiceAsync`. -/
inductive Mode where
  | sync
  | async
  deriving DecidableEq, Repr

/-- Whether the scheduler may take the action: on the event loop no other party is in the middle of its
steps. -/
def Schedulable : Mode → State → Action → Prop
  | .sync, _, _ => True
  | .async, s, .receiveCommand _ =>
      s.dispatcher = .waiting ∧ ∀ receiver ∈ s.receivers, receiver.Returned
  | .async, s, .receiver index =>
      s.dispatcher = .waiting ∧
        ∀ other receiver, other ≠ index → s.receivers[other]? = some receiver → receiver.Returned
  | .async, s, .dispatcher => ∀ receiver ∈ s.receivers, receiver.Returned

def Step (mode : Mode) : State → Action → State → Prop :=
  Guarded (Schedulable mode) fun s action s' => step s action = some s'

def State.skipped (s : State) (place : Place) : List Receipt :=
  (s.tests.filter fun test => test.skipped && test.place = place).map Test.receipt

/-- The command that a call holds between reading it and putting it. -/
def Receiver.held (receiver : Receiver) : List Receipt :=
  match receiver.stage with
  | .next => []
  | .read receipt | .passed receipt => [receipt]

/-- The command that the dispatcher holds between taking it and executing or skipping it. -/
def Dispatcher.held : Dispatcher → List Receipt
  | .took receipt | .passed receipt => [receipt]
  | .waiting | .ran _ => []

end CommandService

end SkyWalking
