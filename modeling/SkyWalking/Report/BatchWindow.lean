import SkyWalking.Lib.Puller
import SkyWalking.Report.Accounting

/-!
# How long a report batch may wait for its queue

The generators of the sync protocols bound a batch by `agent_queue_timeout`. gRPC computes a deadline from
the monotonic clock at the first pull, HTTP and Kafka take the whole seconds that have passed off the
timeout of each wait.
-/

namespace SkyWalking

/-- `int(seconds)`: the fraction is cut off towards zero. -/
def wholeSeconds (seconds : ℚ) : Int := if 0 ≤ seconds then ⌊seconds⌋ else ⌈seconds⌉

/-- The timeout of `queue.get` in `_queue_get_within_batch`, if it gets that far. -/
def queueGetWithinBatch (batchDeadline now : ℚ) (allowImmediate : Bool) : Option ℚ :=
  let remaining := batchDeadline - now
  if remaining ≤ 0 ∧ allowImmediate = false then none
  else some (if 0 < remaining then remaining else 0)

/-- The local variables of a gRPC generator; it has no deadline before its first pull. -/
structure BatchLocals where
  batchDeadline : Option ℚ
  firstGet : Bool
  deriving DecidableEq

/-- The gRPC generators, up to what they make of an item. -/
def withinBatch (agentQueueTimeout : Int) : Puller :=
  { Locals := BatchLocals
    init := ⟨none, true⟩
    pull := fun now locals =>
      let batchDeadline := locals.batchDeadline.getD (now + agentQueueTimeout)
      (queueGetWithinBatch batchDeadline now locals.firstGet).map fun timeout =>
        (timeout, ⟨some batchDeadline, false⟩) }

/-- `not start`, for `None` or a float. -/
def isUnset : Option ℚ → Bool
  | none => true
  | some start => start = 0

/-- The HTTP and Kafka generators, up to what they make of an item. -/
def untilTimeout (agentQueueTimeout : Int) : Puller :=
  { Locals := Option ℚ
    init := none
    pull := fun now start =>
      if isUnset start then some (agentQueueTimeout, some now)
      else
        let timeout := agentQueueTimeout - wholeSeconds (now - start.getD 0)
        if timeout ≤ 0 then none else some (timeout, start) }

/-- How a generator behaves over time; the asyncio ones have no window. -/
def Accounting.Fetch.puller (agentQueueTimeout : Int) : Accounting.Fetch → Option Puller
  | .withinBatch => some (SkyWalking.withinBatch agentQueueTimeout)
  | .timed => some (untilTimeout agentQueueTimeout)
  | .await => none

/-- The generators of the sync protocols. -/
def Protocol.puller (agentQueueTimeout : Int) (protocol : Protocol) (kind : ItemKind) :
    Option Puller :=
  (protocol.generator kind).bind fun generator => generator.fetch.puller agentQueueTimeout

/-- When the waits of a batch that began at `start` may end. -/
def Protocol.EndsInTime (agentQueueTimeout : Int) (start finish : ℚ) : Protocol → Prop
  | .grpc => finish ≤ start + agentQueueTimeout
  | .http | .kafka => finish < start + agentQueueTimeout + 1

end SkyWalking
