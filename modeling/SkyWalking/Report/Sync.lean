import Mathlib
import SkyWalking.Report.Async

/-!
# The reporters of the sync agent over gRPC

One life of the agent, from its bootstrap to the end of `__fini`. Every kind of item has a queue, a
reporter thread and a total of dropped items. Producers, reporter threads, the threads in which gRPC
pulls the generators, the connectivity callback and the thread that shuts down are interleaved; what a
thread does between two accesses to shared state is one step.

Items are numbered in the order in which they are offered.
-/

namespace SkyWalking

/-- `grpc.ChannelConnectivity`. -/
inductive Connectivity where
  | IDLE
  | CONNECTING
  | READY
  | TRANSIENT_FAILURE
  | SHUTDOWN
  deriving DecidableEq, Repr

namespace Sync

/-- Where a call of `report_*` is. -/
inductive BatchPhase where
  | called
  | skipped
  | running
  | succeeded
  /-- `RpcError` was raised. -/
  | failed
  /-- `if sent:` was true. -/
  | checked
  /-- `sent` is not read any more. -/
  | handled
  deriving DecidableEq, Repr

/-- A call of `report_*` and the generator that it gave to the stub. gRPC may still pull the generator
after the call is over. -/
structure Batch where
  phase : BatchPhase
  /-- Whether the gate saw the state `READY`. -/
  ready : Bool
  items : List Nat
  /-- The generator is between `queue.get` and `sent += 1`. -/
  pulling : Bool
  sent : Nat
  ended : Bool
  deriving DecidableEq, Repr

def Batch.new : Batch :=
  { phase := .called
    ready := false
    items := []
    pulling := false
    sent := 0
    ended := false }

def Batch.Failed (batch : Batch) : Prop :=
  batch.phase = .failed ∨ batch.phase = .checked ∨ batch.phase = .handled

instance (batch : Batch) : Decidable batch.Failed :=
  inferInstanceAs (Decidable (_ ∨ _ ∨ _))

inductive Owner where
  | producer
  | batch (index : Nat)
  | shutdown
  deriving DecidableEq, Repr

/-- A call of `log_dropped_throttled` that has not written the total yet. -/
structure Count where
  owner : Owner
  count : Nat
  /-- The sum to be written, once the old total was read. -/
  total : Option Nat
  deriving DecidableEq, Repr

/-- Where a reporter thread is in `report_with_backoff` and in the function that it wraps. -/
inductive ReporterPhase where
  | loop
  | checkReady
  | checkQueue
  | reporting (index : Nat)
  | exited
  deriving DecidableEq, Repr

/-- What there is for one kind of item. -/
structure Pipeline where
  queue : List Nat
  batches : List Batch
  reporter : ReporterPhase
  /-- The local `abandoned` of `_abandon_sync_queue`, until it is counted. -/
  abandoning : Nat
  /-- `_drop_totals[kind]`. -/
  dropTotal : Nat
  counts : List Count
  offered : Nat
  rejected : List Nat
  abandoned : List Nat
  dequeued : List Nat
  deriving DecidableEq, Repr

inductive ReporterAction where
  | loop
  | checkReady
  | checkQueue
  | callOver
  deriving DecidableEq, Repr

inductive BatchAction where
  | gate
  | get
  | got
  | endStream
  | succeed
  | fail
  | checkSent
  | readSent
  deriving DecidableEq, Repr

inductive PipelineAction where
  | offer
  | countRead (index : Nat)
  | countWrite (index : Nat)
  | reporter (action : ReporterAction)
  | batch (index : Nat) (action : BatchAction)
  deriving DecidableEq, Repr

namespace Pipeline

def init (active : Bool) (base : Nat) : Pipeline :=
  { queue := []
    batches := []
    reporter := if active then .loop else .exited
    abandoning := 0
    dropTotal := base
    counts := []
    offered := 0
    rejected := []
    abandoned := []
    dequeued := [] }

/-- `log_dropped_throttled(kind, count)` up to its first access to the totals. -/
def logDropped (owner : Owner) (count : Nat) (p : Pipeline) : Pipeline :=
  if count = 0 then p else { p with counts := p.counts ++ [⟨owner, count, none⟩] }

/-- `archive_segment`, `archive_log`, `archive_meter` and `add_profiling_snapshot`. -/
def archive (maxsize : Nat) (p : Pipeline) : Pipeline :=
  match Queue.put maxsize p.queue p.offered with
  | some queue => { p with queue := queue, offered := p.offered + 1 }
  | none =>
      logDropped .producer 1
        { p with offered := p.offered + 1, rejected := p.rejected ++ [p.offered] }

/-- `total = _drop_totals.get(kind, 0) + count`. -/
def countRead (index : Nat) (p : Pipeline) : Option Pipeline :=
  match p.counts[index]? with
  | some ⟨owner, count, none⟩ =>
      some { p with counts := p.counts.set index ⟨owner, count, some (p.dropTotal + count)⟩ }
  | _ => none

/-- `_drop_totals[kind] = total`. -/
def countWrite (index : Nat) (p : Pipeline) : Option Pipeline :=
  match p.counts[index]? with
  | some ⟨_, _, some total⟩ =>
      some { p with dropTotal := total, counts := p.counts.eraseIdx index }
  | _ => none

/-- A new call of `report_*`. -/
def call (p : Pipeline) : Pipeline := { p with batches := p.batches ++ [.new] }

/-- The reporter thread around its calls of `report_*`. -/
def report (ready finished : Bool) (p : Pipeline) : ReporterAction → Option Pipeline
  | .loop =>
      if p.reporter = .loop then
        some { p with reporter := if finished then .exited else .checkReady }
      else none
  | .checkReady =>
      if p.reporter = .checkReady then
        some { p with reporter := if ready then .checkQueue else .loop }
      else none
  | .checkQueue =>
      if p.reporter = .checkQueue then
        if p.queue.isEmpty then some { p with reporter := .loop }
        else some { p.call with reporter := .reporting p.batches.length }
      else none
  | .callOver =>
      match p.reporter with
      | .reporting index =>
          match p.batches[index]? with
          | some batch =>
              if (batch.phase = .skipped ∨ batch.phase = .succeeded ∨ batch.phase = .handled) ∧
                  ∀ count ∈ p.counts, count.owner ≠ .batch index then
                some { p with reporter := .loop }
              else none
          | none => none
      | _ => none

def setBatch (index : Nat) (batch : Batch) (p : Pipeline) : Pipeline :=
  { p with batches := p.batches.set index batch }

/-- A step of the `index`-th call of `report_*` or of its generator. -/
def runBatch (ready : Bool) (index : Nat) (batch : Batch) (p : Pipeline) :
    BatchAction → Option Pipeline
  -- `is_ready` reads the watched state up to three times; the last read decides.
  | .gate =>
      if batch.phase = .called then
        if ready then some (p.setBatch index { batch with phase := .running, ready := true })
        else some (p.setBatch index { batch with phase := .skipped })
      else none
  | .get =>
      if batch.phase ≠ .called ∧ batch.phase ≠ .skipped ∧ ¬ batch.pulling ∧ ¬ batch.ended then
        match p.queue with
        | item :: rest =>
            some { p.setBatch index { batch with items := batch.items ++ [item], pulling := true } with
              queue := rest
              dequeued := p.dequeued ++ [item] }
        | [] => none
      else none
  | .got =>
      if batch.pulling then
        some (p.setBatch index { batch with pulling := false, sent := batch.sent + 1 })
      else none
  -- The first `queue.get` is tried whatever the deadline; later the deadline can come first.
  | .endStream =>
      if batch.phase ≠ .called ∧ batch.phase ≠ .skipped ∧ ¬ batch.pulling ∧ ¬ batch.ended ∧
          (batch.items = [] → p.queue = []) then
        some (p.setBatch index { batch with ended := true })
      else none
  | .succeed =>
      if batch.phase = .running then some (p.setBatch index { batch with phase := .succeeded })
      else none
  | .fail =>
      if batch.phase = .running then some (p.setBatch index { batch with phase := .failed })
      else none
  | .checkSent =>
      if batch.phase = .failed then
        if batch.sent = 0 then some (p.setBatch index { batch with phase := .handled })
        else some (p.setBatch index { batch with phase := .checked })
      else none
  | .readSent =>
      if batch.phase = .checked then
        some (logDropped (.batch index) batch.sent
          (p.setBatch index { batch with phase := .handled }))
      else none

def act (maxsize : Nat) (ready finished : Bool) (p : Pipeline) :
    PipelineAction → Option Pipeline
  | .offer => some (p.archive maxsize)
  | .countRead index => p.countRead index
  | .countWrite index => p.countWrite index
  | .reporter action => p.report ready finished action
  | .batch index action =>
      match p.batches[index]? with
      | some batch => p.runBatch ready index batch action
      | none => none

/-- The flush thread of `_shutdown_sync_queue` calls `report_*` once. -/
def flush (maySend : Bool) (p : Pipeline) : Pipeline :=
  if maySend && !p.queue.isEmpty then p.call else p

/-- One round of the loop of `_abandon_sync_queue`, `none` if the queue is empty. -/
def abandonOne (p : Pipeline) : Option Pipeline :=
  match p.queue with
  | item :: rest =>
      some { p with
        queue := rest
        dequeued := p.dequeued ++ [item]
        abandoned := p.abandoned ++ [item]
        abandoning := p.abandoning + 1 }
  | [] => none

/-- `if abandoned: log_dropped_throttled(label, abandoned, force=True)`. -/
def countAbandoned (p : Pipeline) : Pipeline :=
  { logDropped .shutdown p.abandoning p with abandoning := 0 }

end Pipeline

structure Config where
  maxsize : ItemKind → Nat
  logReporterActive : Bool
  profileActive : Bool
  meterReporterActive : Bool

def Config.active (config : Config) : ItemKind → Bool
  | .segment => true
  | .log => config.logReporterActive
  | .snapshot => config.profileActive
  | .meter => config.meterReporterActive

/-- The order in which `__fini` shuts the queues down. -/
def Config.shutdownOrder (config : Config) : List ItemKind :=
  [ItemKind.segment, .log, .snapshot, .meter].filter config.active

/-- Where the shutdown of one queue is. -/
inductive Stage where
  | flush
  | abandon
  | join
  deriving DecidableEq, Repr

/-- Where the thread that calls `__fini` is. -/
inductive Fini where
  | notCalled
  | checkReady
  | queue (maySend : Bool) (kind : ItemKind) (stage : Stage) (later : List ItemKind)
  | done
  deriving DecidableEq, Repr

def Fini.next (maySend : Bool) : List ItemKind → Fini
  | [] => .done
  | kind :: later => .queue maySend kind .flush later

structure Agent where
  /-- The state that the connectivity callback maintains, `none` before its first call. -/
  state : Option Connectivity
  finished : Bool
  fini : Fini
  pipeline : ItemKind → Pipeline

inductive Action where
  | connectivity (state : Connectivity)
  | pipeline (kind : ItemKind) (action : PipelineAction)
  | finish
  | maySend
  | flush
  | abandon
  | join

namespace Agent

/-- The agent after `__bootstrap`, with the totals that it found. -/
def init (config : Config) (base : ItemKind → Nat) : Agent :=
  { state := none
    finished := false
    fini := .notCalled
    pipeline := fun kind => .init (config.active kind) (base kind) }

def isReady (agent : Agent) : Bool := agent.state = some .READY

def setPipeline (kind : ItemKind) (p : Pipeline) (agent : Agent) : Agent :=
  { agent with pipeline := Function.update agent.pipeline kind p }

/-- The agent after a step, `none` if the step cannot happen. -/
def step (config : Config) (agent : Agent) : Action → Option Agent
  | .connectivity state => some { agent with state := some state }
  | .pipeline kind action =>
      if config.active kind then
        ((agent.pipeline kind).act (config.maxsize kind) agent.isReady agent.finished action).map
          fun p => agent.setPipeline kind p
      else none
  | .finish =>
      if agent.fini = .notCalled then
        some { agent with finished := true, fini := .checkReady }
      else none
  | .maySend =>
      if agent.fini = .checkReady then
        some { agent with fini := .next agent.isReady config.shutdownOrder }
      else none
  | .flush =>
      match agent.fini with
      | .queue maySend kind .flush later =>
          some { agent.setPipeline kind ((agent.pipeline kind).flush maySend) with
            fini := .queue maySend kind .abandon later }
      | _ => none
  | .abandon =>
      match agent.fini with
      | .queue maySend kind .abandon later =>
          match (agent.pipeline kind).abandonOne with
          | some p => some (agent.setPipeline kind p)
          | none =>
              some { agent.setPipeline kind (agent.pipeline kind).countAbandoned with
                fini := .queue maySend kind .join later }
      | _ => none
  -- The wait for the queue is over when it is done or after its time; it changes nothing.
  | .join =>
      match agent.fini with
      | .queue maySend kind .join later =>
          if ∀ count ∈ (agent.pipeline kind).counts, count.owner ≠ .shutdown then
            some { agent with fini := .next maySend later }
          else none
      | _ => none

end Agent

def Step (config : Config) (agent : Agent) (action : Action) (agent' : Agent) : Prop :=
  agent.step config action = some agent'

namespace Pipeline

/-- Every item offered was rejected, is queued, was abandoned or was taken by one batch, and only one
of these, once. -/
def Conserved (p : Pipeline) : Prop :=
  (p.rejected ++ p.queue ++ p.abandoned ++ p.batches.flatMap Batch.items).Perm
    (List.range p.offered)

/-- The dequeues, which are those of the batches and of the shutdown, come in the order of the puts. -/
def InPutOrder (p : Pipeline) : Prop :=
  (p.dequeued ++ p.queue).Pairwise (· < ·) ∧
    p.dequeued.Perm (p.abandoned ++ p.batches.flatMap Batch.items)

/-- A call that did not see `READY` dequeues nothing. -/
def Gated (p : Pipeline) : Prop := ∀ batch ∈ p.batches, batch.ready = false → batch.items = []

/-- No loss is waiting for its count. -/
def Settled (p : Pipeline) : Prop :=
  p.counts = [] ∧ p.abandoning = 0 ∧
    ∀ batch ∈ p.batches, batch.phase ≠ .failed ∧ batch.phase ≠ .checked

/-- The total is the one at the start and all that was lost since. -/
def Counted (base : Nat) (p : Pipeline) : Prop :=
  p.dropTotal = base + p.rejected.length + p.abandoned.length +
    ((p.batches.filter fun batch => batch.Failed).map fun batch => batch.items.length).sum

/-- No other thread is between its read and its write of the total when a thread reads it, and a failed
batch does not take an item, or have one in its hands, when its items are or were counted. -/
def Undisturbed (p : Pipeline) : PipelineAction → Prop
  | .countRead _ => ∀ count ∈ p.counts, count.total = none
  | .batch index .get => ∀ batch ∈ p.batches[index]?, batch.phase ≠ .handled
  | .batch index .checkSent => ∀ batch ∈ p.batches[index]?, batch.sent = 0 → batch.pulling = false
  | .batch index .readSent => ∀ batch ∈ p.batches[index]?, batch.pulling = false
  | _ => True

instance decidableUndisturbed (p : Pipeline) :
    ∀ action : PipelineAction, Decidable (p.Undisturbed action)
  | .countRead _ => inferInstanceAs (Decidable (∀ count ∈ p.counts, count.total = none))
  | .batch index .get =>
      inferInstanceAs (Decidable (∀ batch ∈ p.batches[index]?, batch.phase ≠ .handled))
  | .batch index .checkSent =>
      inferInstanceAs
        (Decidable (∀ batch ∈ p.batches[index]?, batch.sent = 0 → batch.pulling = false))
  | .batch index .readSent =>
      inferInstanceAs (Decidable (∀ batch ∈ p.batches[index]?, batch.pulling = false))
  | .offer | .countWrite _ | .reporter _ | .batch _ .gate | .batch _ .got | .batch _ .endStream
  | .batch _ .succeed | .batch _ .fail => inferInstanceAs (Decidable True)

instance (p : Pipeline) : Decidable p.Settled :=
  inferInstanceAs (Decidable (p.counts = [] ∧ p.abandoning = 0 ∧
    ∀ batch ∈ p.batches, batch.phase ≠ .failed ∧ batch.phase ≠ .checked))

instance (base : Nat) (p : Pipeline) : Decidable (p.Counted base) :=
  inferInstanceAs (Decidable (_ = _))

end Pipeline

def Agent.Undisturbed (agent : Agent) : Action → Prop
  | .pipeline kind action => (agent.pipeline kind).Undisturbed action
  | _ => True

instance decidableAgentUndisturbed (agent : Agent) :
    ∀ action : Action, Decidable (agent.Undisturbed action)
  | .pipeline kind action => inferInstanceAs (Decidable ((agent.pipeline kind).Undisturbed action))
  | .connectivity _ | .finish | .maySend | .flush | .abandon | .join =>
      inferInstanceAs (Decidable True)

/-- The agent after a list of steps that meet a condition. -/
def runSteps (config : Config) (guard : Agent → Action → Prop)
    [∀ agent action, Decidable (guard agent action)] (agent : Agent) (actions : List Action) :
    Option Agent :=
  actions.foldlM
    (fun agent action => if guard agent action then agent.step config action else none) agent

end Sync

end SkyWalking
