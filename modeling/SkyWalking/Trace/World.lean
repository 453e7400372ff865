import SkyWalking.Lib.Store
import SkyWalking.Trace.Carrier

/-!
# The objects of a traced process

Spans, contexts, carriers, snapshots, correlation maps and the list objects bound to the `spans` context
variable are shared by reference in the source, so each kind has a table of its own and a reference
is an address. A segment belongs to exactly one context, which creates it and never replaces it:
the address of a segment is that of its context.
-/

namespace SkyWalking

structure SegmentRef where
  refType : String
  traceId : String
  segmentId : String
  spanId : Int
  service : String
  serviceInstance : String
  endpoint : Option String
  clientAddress : Option String
  deriving DecidableEq, Repr

/-- The constructor of `SegmentRef`; `int` may reject the span id. -/
def SegmentRef.ofCarrier (carrier : Carrier) (refType : String) : Except PyError SegmentRef :=
  carrier.spanId.toInt.map fun spanId =>
    { refType := refType
      traceId := carrier.traceId
      segmentId := carrier.segmentId
      spanId := spanId
      service := carrier.service
      serviceInstance := carrier.serviceInstance
      endpoint := carrier.endpoint
      clientAddress := carrier.clientAddress }

/-- The reference to the span that a carrier names. -/
def Carrier.toRef (carrier : Carrier) (refType : String) (spanId : Int) : SegmentRef :=
  { refType := refType
    traceId := carrier.traceId
    segmentId := carrier.segmentId
    spanId := spanId
    service := carrier.service
    serviceInstance := carrier.serviceInstance
    endpoint := carrier.endpoint
    clientAddress := carrier.clientAddress }

/-- `Segment` and `NoopSegment`. `spans` holds addresses of spans. -/
structure Segment where
  segmentId : ID
  spans : List Nat
  relatedTraces : List ID
  timestamp : Int
  isSizeLimited : Bool
  deriving DecidableEq, Repr

def Segment.archive (segment : Segment) (span : Nat) : Segment :=
  { segment with spans := segment.spans ++ [span] }

/-- `Segment.relate`: a trace id that the segment generated itself gives way to the first one from
outside. -/
def Segment.relate (segment : Segment) (traceId : ID) : Segment :=
  match segment.relatedTraces with
  | ⟨.NewID, _⟩ :: _ =>
      { segment with relatedTraces := segment.relatedTraces.dropLast ++ [traceId] }
  | _ => { segment with relatedTraces := segment.relatedTraces ++ [traceId] }

/-- `Span` and its three subclasses. -/
inductive SpanClass where
  | Span | EntrySpan | ExitSpan | NoopSpan
  deriving DecidableEq, Repr

structure Span where
  cls : SpanClass
  context : Nat
  depth : Int
  sid : Int
  pid : Int
  op : String
  peer : Option String
  kind : Kind
  component : Component
  layer : Layer
  inherit : Component
  tags : List (String × TagEntry)
  logs : List Log
  refs : List SegmentRef
  startTime : Int
  endTime : Int
  errorOccurred : Bool
  maxDepth : Int
  deriving DecidableEq, Repr

/-- `Span.__init__`, with the kind that the subclass passes on. -/
def Span.create (cls : SpanClass) (context : Nat) (sid pid : Int) (op : String)
    (peer : Option String) (component : Option Component) : Span :=
  { cls := cls
    context := context
    depth := 0
    sid := sid
    pid := pid
    op := op
    peer := peer
    kind := match cls with
      | .EntrySpan => .Entry
      | .ExitSpan => .Exit
      | _ => .Local
    component := component.getD .Unknown
    layer := .Unknown
    inherit := .Unknown
    tags := []
    logs := []
    refs := []
    startTime := 0
    endTime := 0
    errorOccurred := false
    maxDepth := 0 }

instance : Inhabited Span := ⟨Span.create .NoopSpan 0 (-1) (-1) "" none none⟩

namespace Span

def entered (span : Span) : Span := { span with depth := span.depth + 1 }

def left (span : Span) : Span := { span with depth := span.depth - 1 }

def startedAt (now : ℚ) (span : Span) : Span := { span with startTime := millis now }

def endedAt (now : ℚ) (span : Span) : Span := { span with endTime := millis now }

/-- What `EntrySpan.start` does after `Span.start`: it forgets what an outer user of the same span has
recorded. -/
def restarted (span : Span) : Span :=
  { span with
    maxDepth := span.depth
    component := .Unknown
    layer := .Unknown
    logs := []
    tags := [] }

def addRef (ref : SegmentRef) (span : Span) : Span := { span with refs := span.refs ++ [ref] }

end Span

/-- `SpanContext` and `NoopContext`. The profiling status is left out: no modelled function reads
it. -/
structure SpanContext where
  noop : Bool
  segment : Segment
  sid : Int
  correlation : Nat
  nspans : Int
  createTime : Int
  primaryEndpoint : Option Nat
  deriving DecidableEq, Repr

instance : Inhabited SpanContext :=
  ⟨{ noop := true
     segment := ⟨⟨.NewNoopID, ""⟩, [], [⟨.NewNoopID, ""⟩], 0, false⟩
     sid := -1
     correlation := 0
     nspans := 0
     createTime := 0
     primaryEndpoint := none }⟩

namespace SpanContext

/-- `_sid.next()`. -/
def nextSid (context : SpanContext) : SpanContext := { context with sid := context.sid + 1 }

def countUp (context : SpanContext) : SpanContext := { context with nspans := context.nspans + 1 }

def countDown (context : SpanContext) : SpanContext := { context with nspans := context.nspans - 1 }

def relate (traceId : ID) (context : SpanContext) : SpanContext :=
  { context with segment := context.segment.relate traceId }

def withCorrelation (correlation : Nat) (context : SpanContext) : SpanContext :=
  { context with correlation := correlation }

def withPrimary (primaryEndpoint : Option Nat) (context : SpanContext) : SpanContext :=
  { context with primaryEndpoint := primaryEndpoint }

def archiveSpan (span : Nat) (context : SpanContext) : SpanContext :=
  { context with segment := context.segment.archive span }

def sizeLimited (full : Bool) (context : SpanContext) : SpanContext :=
  { context with segment := { context.segment with isSizeLimited := full } }

end SpanContext

/-- `Snapshot`; `correlation` is the address of its own copy of the map. -/
structure Snapshot where
  segmentId : Option String
  spanId : Int
  traceId : Option ID
  endpoint : Option String
  correlation : Nat
  deriving DecidableEq, Repr

instance : Inhabited Carrier := ⟨Carrier.fresh 0⟩

instance : Inhabited Snapshot := ⟨⟨none, -1, none, none, 0⟩⟩

/-- The state of one process. `vars` binds the `spans` context variable of each task or thread to a
list object, `archived` records the calls of `agent.archive_segment`, `uuids` counts the identifiers
used up, and `now` is what `time.time()` reads. -/
structure World where
  spans : Store Span
  contexts : Store SpanContext
  carriers : Store Carrier
  snapshots : Store Snapshot
  dicts : Store Correlation
  lists : Store (List Nat)
  vars : Nat → Option Nat
  archived : List Nat
  uuids : Nat
  now : ℚ

namespace World

def init : World :=
  { spans := .empty
    contexts := .empty
    carriers := .empty
    snapshots := .empty
    dicts := .empty
    lists := .empty
    vars := fun _ => none
    archived := []
    uuids := 0
    now := 0 }

def span (w : World) (address : Nat) : Span := w.spans.get address

def context (w : World) (address : Nat) : SpanContext := w.contexts.get address

/-- What a task sees as its span stack, innermost span last. -/
def view (w : World) (task : Nat) : List Nat :=
  match w.vars task with
  | some list => w.lists.get list
  | none => []

def modifySpan (w : World) (address : Nat) (f : Span → Span) : World :=
  { w with spans := w.spans.modify address f }

def modifyContext (w : World) (address : Nat) (f : SpanContext → SpanContext) : World :=
  { w with contexts := w.contexts.modify address f }

/-- Bind the context variable of a task to a new list object. -/
def bindList (w : World) (task : Nat) (spans : List Nat) : World :=
  { w with
    lists := w.lists.alloc spans
    vars := Function.update w.vars task (some w.lists.size) }

/-- `_spans()`: an unset variable is bound to an empty list first. -/
def spansGet (w : World) (task : Nat) : World :=
  match w.vars task with
  | some _ => w
  | none => w.bindList task []

/-- `_spans_dup()`: the variable is bound to a copy. -/
def spansDup (w : World) (task : Nat) : World := w.bindList task (w.view task)

/-- In-place change of the list object that the variable of a task is bound to. -/
def modifyList (w : World) (task : Nat) (f : List Nat → List Nat) : World :=
  match w.vars task with
  | some list => { w with lists := w.lists.modify list f }
  | none => w

/-- A task starts with a copy of the context variables of its creator: the list object is shared. -/
def spawn (w : World) (creator child : Nat) : World :=
  { w with vars := Function.update w.vars child (w.vars creator) }

end World

end SkyWalking
