import SkyWalking.Report.Async

/-!
# Unfinished tasks

A queue counts the items that were put into it and for which `task_done` has not been called; `join`
waits until there are none. A reporter's generator takes an item, says that it is done, and only then
builds a message from it and yields it. Generators, the abandon loops of the shutdown and producers use a
queue at the same time, in threads or on an event loop, and every operation on the queue is one step.
-/

namespace SkyWalking.Accounting

/-- How a generator asks its queue for the next item. -/
inductive Fetch where
  /-- `_queue_get_within_batch`: no `get` once the window is over, except for the first. -/
  | withinBatch
  /-- `queue.get(block=block, timeout=timeout)` while time is left. -/
  | timed
  /-- `await queue.get()`. -/
  | await
  deriving DecidableEq, Repr

/-- The generator of a `report_*` method. -/
structure Generator where
  /-- `if not self.is_ready(): return` comes first. -/
  gated : Bool
  fetch : Fetch
  /-- `sent += 1` for each item. -/
  counts : Bool
  /-- A message is built from the item, which may raise. -/
  builds : Bool
  deriving DecidableEq, Repr

end Accounting

section Generators

open Accounting

/-- `none` for a method without a body. -/
def Protocol.generator : Protocol → ItemKind → Option Generator
  | .grpc, .segment => some ⟨true, .withinBatch, true, true⟩
  | .grpc, .log => some ⟨true, .withinBatch, true, false⟩
  | .grpc, .meter => some ⟨true, .withinBatch, true, false⟩
  | .grpc, .snapshot => some ⟨true, .withinBatch, true, true⟩
  | .http, .segment => some ⟨false, .timed, false, false⟩
  | .http, .log => some ⟨false, .timed, false, false⟩
  | .http, .meter => none
  | .http, .snapshot => none
  | .kafka, .segment => some ⟨false, .timed, false, true⟩
  | .kafka, .log => some ⟨false, .timed, false, false⟩
  | .kafka, .meter => some ⟨false, .timed, false, false⟩
  | .kafka, .snapshot => none

def Protocol.asyncGenerator : Protocol → ItemKind → Option Generator
  | .grpc, .segment => some ⟨true, .await, true, true⟩
  | .grpc, .log => some ⟨true, .await, true, false⟩
  | .grpc, .meter => some ⟨true, .await, true, false⟩
  | .grpc, .snapshot => some ⟨true, .await, true, true⟩
  | .http, .segment => some ⟨false, .await, false, false⟩
  | .http, .log => some ⟨false, .await, false, false⟩
  | .http, .meter => none
  | .http, .snapshot => none
  | .kafka, .segment => some ⟨false, .await, false, true⟩
  | .kafka, .log => some ⟨false, .await, false, false⟩
  | .kafka, .meter => some ⟨false, .await, false, false⟩
  | .kafka, .snapshot => none

end Generators

namespace Accounting

/-- Where a consumer is. -/
inductive Position where
  /-- Before `get`; `first` if it has not asked before. -/
  | fetching (first : Bool)
  /-- `get` has returned. -/
  | holding
  /-- `task_done` has returned. -/
  | building
  /-- Suspended at `yield`. -/
  | yielded
  | ended
  deriving DecidableEq, Repr

inductive Program where
  | generator (generator : Generator)
  /-- `_abandon_sync_queue` and `_abandon_async_queue`. -/
  | abandon
  deriving DecidableEq, Repr

structure Consumer where
  program : Program
  position : Position
  /-- The local `sent` or `abandoned`. -/
  count : Nat
  deriving DecidableEq, Repr

structure State (Item : Type) where
  queue : List Item
  unfinishedTasks : Nat
  consumers : List Consumer
  /-- How often `get` has returned an item. -/
  gets : Nat
  /-- How often `task_done` was called. -/
  dones : Nat
  /-- How often it raised `ValueError`. -/
  valueErrors : Nat
  deriving DecidableEq, Repr

variable {Item : Type}

def State.init : State Item :=
  { queue := []
    unfinishedTasks := 0
    consumers := []
    gets := 0
    dones := 0
    valueErrors := 0 }

/-- What the transport or the clock decides at a step of a consumer. -/
inductive Choice where
  /-- The operation is carried out. -/
  | proceed
  /-- The window is over. -/
  | timeOver
  /-- An exception is raised: by a timeout that is negative, by the message or in the transport. -/
  | raise
  /-- The generator is closed. -/
  | close
  deriving DecidableEq, Repr

inductive Action (Item : Type) where
  | put (item : Item)
  /-- A call of `report_*`; `ready` is what the gate sees. -/
  | report (ready : Bool)
  | abandon
  | consumer (index : Nat) (choice : Choice)

def State.put (maxsize : Nat) (item : Item) (s : State Item) : State Item :=
  match Queue.put maxsize s.queue item with
  | some queue => { s with queue := queue, unfinishedTasks := s.unfinishedTasks + 1 }
  | none => s

def State.setConsumer (s : State Item) (index : Nat) (consumer : Consumer) : State Item :=
  { s with consumers := s.consumers.set index consumer }

/-- `get` or `get_nowait`: the consumer ends on an empty queue, where `await queue.get()` waits. -/
def State.get (s : State Item) (index : Nat) (consumer : Consumer) : Option (State Item) :=
  match s.queue, consumer.program with
  | _ :: rest, _ =>
      some ({ s with queue := rest, gets := s.gets + 1 }.setConsumer index
        { consumer with position := .holding })
  | [], .generator ⟨_, .await, _, _⟩ => none
  | [], _ => some (s.setConsumer index { consumer with position := .ended })

def State.taskDone (s : State Item) (index : Nat) (consumer : Consumer) : State Item :=
  match s.unfinishedTasks with
  | 0 =>
      { s with dones := s.dones + 1, valueErrors := s.valueErrors + 1 }.setConsumer index
        { consumer with position := .ended }
  | unfinished + 1 =>
      { s with dones := s.dones + 1, unfinishedTasks := unfinished }.setConsumer index
        { consumer with position := .building }

/-- What follows `task_done` up to the next suspension: `sent += 1`, the message and the `yield` of a
generator, `abandoned += 1` of an abandon loop. -/
def Consumer.afterDone (consumer : Consumer) (raises : Bool) : Consumer :=
  match consumer.program with
  | .abandon => { consumer with position := .fetching false, count := consumer.count + 1 }
  | .generator generator =>
      { consumer with
        position := if generator.builds && raises then .ended else .yielded
        count := if generator.counts then consumer.count + 1 else consumer.count }

def State.consume (s : State Item) (index : Nat) (consumer : Consumer) (choice : Choice) :
    Option (State Item) :=
  let stop := s.setConsumer index { consumer with position := .ended }
  match consumer.position with
  | .fetching first =>
      match choice, consumer.program with
      | .proceed, _ => s.get index consumer
      | .timeOver, .generator generator =>
          if !first && generator.fetch ≠ .await then some stop else none
      | .raise, .generator generator => if generator.fetch = .timed then some stop else none
      | .close, .generator generator => if generator.fetch = .await then some stop else none
      | _, _ => none
  | .holding => if choice = .proceed then some (s.taskDone index consumer) else none
  | .building =>
      match choice with
      | .proceed => some (s.setConsumer index (consumer.afterDone false))
      | .raise => some (s.setConsumer index (consumer.afterDone true))
      | _ => none
  | .yielded =>
      match choice with
      | .proceed => some (s.setConsumer index { consumer with position := .fetching false })
      | .close => some stop
      | _ => none
  | .ended => none

/-- The state after an action, `none` if the action cannot happen; `generator` is that of the reporter
of the queue. -/
def step (generator : Option Generator) (maxsize : Nat) (s : State Item) :
    Action Item → Option (State Item)
  | .put item => some (s.put maxsize item)
  | .report ready =>
      match generator with
      | none => some s
      | some generator =>
          if generator.gated && !ready then some s
          else some { s with
            consumers := s.consumers ++ [⟨.generator generator, .fetching true, 0⟩] }
  | .abandon => some { s with consumers := s.consumers ++ [⟨.abandon, .fetching true, 0⟩] }
  | .consumer index choice =>
      match s.consumers[index]? with
      | none => none
      | some consumer => s.consume index consumer choice

def Step (generator : Option Generator) (maxsize : Nat) (s : State Item) (action : Action Item)
    (s' : State Item) : Prop :=
  step generator maxsize s action = some s'

/-- The gets whose `task_done` has not run. -/
def State.pending (s : State Item) : Nat :=
  s.consumers.countP fun consumer => consumer.position == .holding

/-- `join`, which blocks while there are unfinished tasks. -/
def State.join (s : State Item) : Option (State Item) :=
  if s.unfinishedTasks = 0 then some s else none

end Accounting

end SkyWalking
