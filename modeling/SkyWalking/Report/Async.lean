import SkyWalking.Lib.Queue
import SkyWalking.Lib.Run

/-!
# The asyncio reporters

A reporter takes items from its queue in a generator and gives the generator to a client. The event loop
interleaves the producers' puts, the reporter, the generators that a stub still pulls after its stream
has ended, and the shutdown. Between two suspensions nothing else runs.
-/

namespace SkyWalking

inductive Protocol where
  | grpc
  | http
  | kafka
  deriving DecidableEq, Repr

inductive ItemKind where
  | segment
  | log
  | meter
  | snapshot
  deriving DecidableEq, Repr

namespace Async

/-- What a client does with its generator. -/
inductive Consumption where
  /-- The stub pulls it and writes each item into the stream. -/
  | stream
  /-- `async for item in generator:` with a call for each item. -/
  | each
  /-- A list of all its items first, then one call; `sendsEmpty` if also for an empty list. -/
  | collect (sendsEmpty : Bool)
  /-- The method has no body. -/
  | nothing
  deriving DecidableEq, Repr

structure Reporter where
  /-- `if not self.is_ready(): return`, which only the gRPC protocol can meet. -/
  gated : Bool
  /-- The producer is started by the first call. -/
  startsProducer : Bool
  /-- A message is built from the item after it was taken and before it is handed over. -/
  builds : Bool
  consumption : Consumption
  deriving DecidableEq, Repr

end Async

section Reporters

open Async

def GrpcProtocolAsync.reportSegment : Reporter := ⟨true, false, true, .stream⟩

def GrpcProtocolAsync.reportLog : Reporter := ⟨true, false, false, .stream⟩

def GrpcProtocolAsync.reportMeter : Reporter := ⟨true, false, false, .stream⟩

def GrpcProtocolAsync.reportSnapshot : Reporter := ⟨true, false, true, .stream⟩

def HttpProtocolAsync.reportSegment : Reporter := ⟨false, false, true, .each⟩

def HttpProtocolAsync.reportLog : Reporter := ⟨false, false, true, .collect false⟩

def HttpProtocolAsync.reportMeter : Reporter := ⟨false, false, false, .nothing⟩

def HttpProtocolAsync.reportSnapshot : Reporter := ⟨false, false, false, .nothing⟩

def KafkaProtocolAsync.reportSegment : Reporter := ⟨false, true, true, .each⟩

def KafkaProtocolAsync.reportLog : Reporter := ⟨false, true, true, .each⟩

def KafkaProtocolAsync.reportMeter : Reporter := ⟨false, true, false, .collect true⟩

def KafkaProtocolAsync.reportSnapshot : Reporter := ⟨false, false, false, .nothing⟩

def Protocol.asyncReporter : Protocol → ItemKind → Reporter
  | .grpc, .segment => GrpcProtocolAsync.reportSegment
  | .grpc, .log => GrpcProtocolAsync.reportLog
  | .grpc, .meter => GrpcProtocolAsync.reportMeter
  | .grpc, .snapshot => GrpcProtocolAsync.reportSnapshot
  | .http, .segment => HttpProtocolAsync.reportSegment
  | .http, .log => HttpProtocolAsync.reportLog
  | .http, .meter => HttpProtocolAsync.reportMeter
  | .http, .snapshot => HttpProtocolAsync.reportSnapshot
  | .kafka, .segment => KafkaProtocolAsync.reportSegment
  | .kafka, .log => KafkaProtocolAsync.reportLog
  | .kafka, .meter => KafkaProtocolAsync.reportMeter
  | .kafka, .snapshot => KafkaProtocolAsync.reportSnapshot

end Reporters

namespace Async

/-- Where the reporter's coroutine is suspended. -/
inductive Phase where
  /-- In the wait of the backoff loop. -/
  | idle
  /-- In `self.producer.start()`. -/
  | starting
  /-- In `queue.get()`. -/
  | waiting
  /-- In the call that takes what was handed over. -/
  | sending
  | stopped
  deriving DecidableEq, Repr

structure State (Item : Type) where
  queue : List Item
  ready : Bool
  producerStarted : Bool
  phase : Phase
  /-- The list that a client collects. -/
  batch : List Item
  /-- How many generators of streams that have ended still wait on the queue. -/
  leftover : Nat
  taken : List Item
  handed : List Item
  deriving DecidableEq, Repr

def State.init {Item : Type} : State Item :=
  { queue := []
    ready := false
    producerStarted := false
    phase := .idle
    batch := []
    leftover := 0
    taken := []
    handed := [] }

inductive Action (Item : Type) where
  | put (item : Item)
  | connectivity (ready : Bool)
  | call
  | started (ok : Bool)
  | resume
  | returned (ok : Bool)
  | streamEnded
  | resumeLeftover
  | abandon
  | cancel

/-- What a generator does when it is resumed. -/
inductive Next (Item : Type) where
  | suspend
  | yield (item : Item) (rest : List Item)
  | stop

variable {Item : Type}

/-- `while True: item = await queue.get(); queue.task_done(); yield item`. -/
def generator : List Item → Next Item
  | [] => .suspend
  | item :: rest => .yield item rest

/-- An item is taken; the generator or the client raises if its message cannot be built. -/
def State.take (reporter : Reporter) (raises : Item → Bool) (item : Item) (rest : List Item)
    (s : State Item) : State Item :=
  let s := { s with queue := rest, taken := s.taken ++ [item] }
  if reporter.builds && raises item then { s with phase := .idle, batch := [] }
  else
    match reporter.consumption with
    | .stream | .each => { s with handed := s.handed ++ [item], phase := .sending }
    | .collect _ => { s with batch := s.batch ++ [item] }
    | .nothing => s

/-- The generator has ended, and with it the loop over it. -/
def State.finish (reporter : Reporter) (s : State Item) : State Item :=
  match reporter.consumption with
  | .collect sendsEmpty =>
      if sendsEmpty || !s.batch.isEmpty then
        { s with handed := s.handed ++ s.batch, batch := [], phase := .sending }
      else { s with phase := .idle }
  | _ => { s with phase := .idle }

/-- The stub takes an item for a stream that has ended; its write fails and the generator is dropped. -/
def State.takeLeftover (reporter : Reporter) (raises : Item → Bool) (item : Item)
    (rest : List Item) (s : State Item) : State Item :=
  let s := { s with queue := rest, taken := s.taken ++ [item], leftover := s.leftover - 1 }
  if reporter.builds && raises item then s else { s with handed := s.handed ++ [item] }

/-- The state after an action, `none` if the action cannot happen. -/
def step (reporter : Reporter) (raises : Item → Bool) (maxsize : Nat) (s : State Item) :
    Action Item → Option (State Item)
  | .put item => some { s with queue := (Queue.put maxsize s.queue item).getD s.queue }
  | .connectivity ready => some { s with ready := ready }
  | .call =>
      if s.phase = .idle ∧ (reporter.gated → s.ready) ∧ s.queue ≠ [] then
        if reporter.consumption = .nothing then some s
        else if reporter.startsProducer && !s.producerStarted then
          some { s with phase := .starting, batch := [] }
        else some { s with phase := .waiting, batch := [] }
      else none
  | .started ok =>
      if s.phase = .starting then
        if ok then some { s with phase := .waiting, producerStarted := true }
        else some { s with phase := .idle }
      else none
  | .resume =>
      if s.phase = .waiting then
        match generator s.queue with
        | .suspend => some s
        | .yield item rest => some (s.take reporter raises item rest)
        | .stop => some (s.finish reporter)
      else none
  | .returned ok =>
      if s.phase = .sending then
        match reporter.consumption, ok with
        | .stream, true | .each, true => some { s with phase := .waiting }
        | _, _ => some { s with phase := .idle }
      else none
  | .streamEnded =>
      if s.phase = .waiting ∧ reporter.consumption = .stream then
        some { s with phase := .idle, leftover := s.leftover + 1 }
      else none
  | .resumeLeftover =>
      if 0 < s.leftover then
        match generator s.queue with
        | .yield item rest => some (s.takeLeftover reporter raises item rest)
        | _ => some s
      else none
  | .abandon => some { s with queue := [] }
  | .cancel => some { s with phase := .stopped }

def Step (reporter : Reporter) (raises : Item → Bool) (maxsize : Nat) (s : State Item)
    (action : Action Item) (s' : State Item) : Prop :=
  step reporter raises maxsize s action = some s'

/-- The item that is put, if one is, is one whose message can be built. -/
def Action.Builds (raises : Item → Bool) : Action Item → Prop
  | .put item => raises item = false
  | _ => True

/-- Suspended on an empty queue. -/
def State.Suspended (s : State Item) : Prop := s.phase = .waiting ∧ s.queue = []

/-- Every item taken was handed to the transport, as often as it was taken. -/
def State.HandedOver (s : State Item) : Prop := s.taken.Subperm s.handed

end Async

end SkyWalking
