import SkyWalking.Lib.Json
import SkyWalking.Trace.Context

/-!
# The segment encoders

Each reporter turns an archived segment into what it sends: the gRPC and Kafka reporters into a
`SegmentObject`, the HTTP reporters into JSON. A text of `None` leaves a protobuf field at its default.
Enumerations are kept by their names, except for `refType`, which is given as a number.

The message classes are generated. Which numbers an integer field of theirs takes is a parameter `takes`;
with any other number the constructor raises `ValueError`.
-/

namespace SkyWalking

structure KeyStringValuePair where
  key : String
  value : String
  deriving DecidableEq, Repr

/-- `Log` of the protocol. -/
structure LogObject where
  time : Int
  data : List KeyStringValuePair
  deriving DecidableEq, Repr

structure SegmentReference where
  refType : Int
  traceId : String
  parentTraceSegmentId : String
  parentSpanId : Int
  parentService : String
  parentServiceInstance : String
  parentEndpoint : String
  networkAddressUsedAtPeer : String
  deriving DecidableEq, Repr

structure SpanObject where
  spanId : Int
  parentSpanId : Int
  startTime : Int
  endTime : Int
  operationName : String
  peer : String
  spanType : String
  spanLayer : String
  componentId : Int
  isError : Bool
  logs : List LogObject
  tags : List KeyStringValuePair
  refs : List SegmentReference
  deriving DecidableEq, Repr

structure SegmentObject where
  traceId : String
  traceSegmentId : String
  service : String
  serviceInstance : String
  isSizeLimited : Bool
  spans : List SpanObject
  deriving DecidableEq, Repr

/-- The integer fields of the messages. -/
inductive IntField where
  | spanId | parentSpanId | startTime | endTime | componentId
  | time
  | refParentSpanId
  deriving DecidableEq, Repr

section Constructors

variable (takes : IntField → Int → Bool)

def LogObject.create (fields : LogObject) : Except PyError LogObject :=
  if takes .time fields.time then .ok fields else .error .valueError

def SegmentReference.create (fields : SegmentReference) : Except PyError SegmentReference :=
  if takes .refParentSpanId fields.parentSpanId then .ok fields else .error .valueError

def SpanObject.create (fields : SpanObject) : Except PyError SpanObject :=
  if takes .spanId fields.spanId && takes .parentSpanId fields.parentSpanId &&
      takes .startTime fields.startTime && takes .endTime fields.endTime &&
      takes .componentId fields.componentId
  then .ok fields
  else .error .valueError

end Constructors

/-- `str(segment.related_traces[0])`. -/
def Segment.traceId (segment : Segment) : String :=
  (segment.relatedTraces.head?.map ID.value).getD ""

/-- `0 if ref.ref_type == 'CrossProcess' else 1`. -/
def SegmentRef.refTypeNumber (ref : SegmentRef) : Int := if ref.refType = "CrossProcess" then 0 else 1

section Object

variable (takes : IntField → Int → Bool) (refType : SegmentRef → Int)

def referenceObject (ref : SegmentRef) : Except PyError SegmentReference :=
  SegmentReference.create takes
    { refType := refType ref
      traceId := ref.traceId
      parentTraceSegmentId := ref.segmentId
      parentSpanId := ref.spanId
      parentService := ref.service
      parentServiceInstance := ref.serviceInstance
      parentEndpoint := ref.endpoint.getD ""
      networkAddressUsedAtPeer := ref.clientAddress.getD "" }

def logObject (log : Log) : Except PyError LogObject :=
  LogObject.create takes
    { time := millis log.timestamp
      data := log.items.map fun item => ⟨item.key, item.val⟩ }

/-- References without a trace id are left out. -/
def spanObject (span : Span) : Except PyError SpanObject := do
  let logs ← span.logs.mapM (logObject takes)
  let refs ← (span.refs.filter fun ref => ref.traceId ≠ "").mapM (referenceObject takes refType)
  SpanObject.create takes
    { spanId := span.sid
      parentSpanId := span.pid
      startTime := span.startTime
      endTime := span.endTime
      operationName := span.op
      peer := span.peer.getD ""
      spanType := span.kind.name
      spanLayer := span.layer.name
      componentId := span.component.value
      isError := span.errorOccurred
      logs := logs
      tags := span.iterTags.map fun tag => ⟨tag.key, tag.val⟩
      refs := refs }

/-- The object that the four reporters with a `SegmentObject` build, for a way to number references. -/
def segmentObject (env : Env) (w : World) (segment : Segment) : Except PyError SegmentObject := do
  let spans ← segment.spans.mapM fun span => spanObject takes refType (w.span span)
  return {
    traceId := segment.traceId
    traceSegmentId := segment.segmentId.value
    service := env.agentName
    serviceInstance := env.agentInstanceName
    isSizeLimited := segment.isSizeLimited
    spans := spans }

end Object

section Reporters

variable (takes : IntField → Int → Bool)

def GrpcProtocol.segmentObject : Env → World → Segment → Except PyError SegmentObject :=
  SkyWalking.segmentObject takes SegmentRef.refTypeNumber

def GrpcProtocolAsync.segmentObject : Env → World → Segment → Except PyError SegmentObject :=
  SkyWalking.segmentObject takes SegmentRef.refTypeNumber

def KafkaProtocol.segmentObject : Env → World → Segment → Except PyError SegmentObject :=
  SkyWalking.segmentObject takes SegmentRef.refTypeNumber

def KafkaProtocolAsync.segmentObject : Env → World → Segment → Except PyError SegmentObject :=
  SkyWalking.segmentObject takes SegmentRef.refTypeNumber

end Reporters

def pairJson (key value : String) : Json := .obj [("key", .str key), ("value", .str value)]

/-- The reference of both HTTP reporters, with the constant that stands there for its type. -/
def referenceJson (ref : SegmentRef) : Json :=
  .obj [("refType", .num 0), ("traceId", .str ref.traceId),
    ("parentTraceSegmentId", .str ref.segmentId), ("parentSpanId", .num ref.spanId),
    ("parentService", .str ref.service), ("parentServiceInstance", .str ref.serviceInstance),
    ("parentEndpoint", Json.ofOption ref.endpoint),
    ("networkAddressUsedAtPeer", Json.ofOption ref.clientAddress)]

def logJson (log : Log) : Json :=
  .obj [("time", .num (millis log.timestamp)),
    ("data", .arr (log.items.map fun item => pairJson item.key item.val))]

def spanJson (span : Span) : Json :=
  .obj [("spanId", .num span.sid), ("parentSpanId", .num span.pid),
    ("startTime", .num span.startTime), ("endTime", .num span.endTime),
    ("operationName", .str span.op), ("peer", Json.ofOption span.peer),
    ("spanType", .str span.kind.name), ("spanLayer", .str span.layer.name),
    ("componentId", .num span.component.value), ("isError", .bool span.errorOccurred),
    ("logs", .arr (span.logs.map logJson)),
    ("tags", .arr (span.iterTags.map fun tag => pairJson tag.key tag.val)),
    ("refs", .arr ((span.refs.filter fun ref => ref.traceId ≠ "").map referenceJson))]

def segmentJson (env : Env) (w : World) (segment : Segment) : Json :=
  .obj [("traceId", .str segment.traceId), ("traceSegmentId", .str segment.segmentId.value),
    ("service", .str env.agentName), ("serviceInstance", .str env.agentInstanceName),
    ("isSizeLimited", .bool segment.isSizeLimited),
    ("spans", .arr (segment.spans.map fun span => spanJson (w.span span)))]

def HttpTraceSegmentReportService.segmentJson : Env → World → Segment → Json :=
  SkyWalking.segmentJson

def HttpTraceSegmentReportServiceAsync.segmentJson : Env → World → Segment → Json :=
  SkyWalking.segmentJson

def KeyStringValuePair.ofJson (json : Json) : Option KeyStringValuePair := do
  let key ← (json.field "key").toStr?
  let value ← (json.field "value").toStr?
  some ⟨key, value⟩

def LogObject.ofJson (json : Json) : Option LogObject := do
  let time ← (json.field "time").toInt?
  let data ← (json.field "data").toList? KeyStringValuePair.ofJson
  some ⟨time, data⟩

def SegmentReference.ofJson (json : Json) : Option SegmentReference := do
  let refType ← (json.field "refType").toInt?
  let traceId ← (json.field "traceId").toStr?
  let parentTraceSegmentId ← (json.field "parentTraceSegmentId").toStr?
  let parentSpanId ← (json.field "parentSpanId").toInt?
  let parentService ← (json.field "parentService").toStr?
  let parentServiceInstance ← (json.field "parentServiceInstance").toStr?
  let parentEndpoint ← (json.field "parentEndpoint").toStr?
  let networkAddressUsedAtPeer ← (json.field "networkAddressUsedAtPeer").toStr?
  some ⟨refType, traceId, parentTraceSegmentId, parentSpanId, parentService, parentServiceInstance,
    parentEndpoint, networkAddressUsedAtPeer⟩

def SpanObject.ofJson (json : Json) : Option SpanObject := do
  let spanId ← (json.field "spanId").toInt?
  let parentSpanId ← (json.field "parentSpanId").toInt?
  let startTime ← (json.field "startTime").toInt?
  let endTime ← (json.field "endTime").toInt?
  let operationName ← (json.field "operationName").toStr?
  let peer ← (json.field "peer").toStr?
  let spanType ← (json.field "spanType").toStr?
  let spanLayer ← (json.field "spanLayer").toStr?
  let componentId ← (json.field "componentId").toInt?
  let isError ← (json.field "isError").toBool?
  let logs ← (json.field "logs").toList? LogObject.ofJson
  let tags ← (json.field "tags").toList? KeyStringValuePair.ofJson
  let refs ← (json.field "refs").toList? SegmentReference.ofJson
  some ⟨spanId, parentSpanId, startTime, endTime, operationName, peer, spanType, spanLayer,
    componentId, isError, logs, tags, refs⟩

def SegmentObject.ofJson (json : Json) : Option SegmentObject := do
  let traceId ← (json.field "traceId").toStr?
  let traceSegmentId ← (json.field "traceSegmentId").toStr?
  let service ← (json.field "service").toStr?
  let serviceInstance ← (json.field "serviceInstance").toStr?
  let isSizeLimited ← (json.field "isSizeLimited").toBool?
  let spans ← (json.field "spans").toList? SpanObject.ofJson
  some ⟨traceId, traceSegmentId, service, serviceInstance, isSizeLimited, spans⟩

/-- The six encoders mean the same object. -/
def EncodersAgree (takes : IntField → Int → Bool) (env : Env) (w : World) (segment : Segment) : Prop :=
  ∃ object, GrpcProtocol.segmentObject takes env w segment = .ok object ∧
    GrpcProtocolAsync.segmentObject takes env w segment = .ok object ∧
    KafkaProtocol.segmentObject takes env w segment = .ok object ∧
    KafkaProtocolAsync.segmentObject takes env w segment = .ok object ∧
    SegmentObject.ofJson (HttpTraceSegmentReportService.segmentJson env w segment) = some object ∧
    SegmentObject.ofJson (HttpTraceSegmentReportServiceAsync.segmentJson env w segment) = some object

/-- Every number of a span is one that its field takes. -/
structure Span.Fits (takes : IntField → Int → Bool) (span : Span) : Prop where
  spanId : takes .spanId span.sid
  parentSpanId : takes .parentSpanId span.pid
  startTime : takes .startTime span.startTime
  endTime : takes .endTime span.endTime
  componentId : takes .componentId span.component.value
  logs : ∀ log ∈ span.logs, takes .time (millis log.timestamp)
  refs : ∀ ref ∈ span.refs, ref.traceId ≠ "" → takes .refParentSpanId ref.spanId

end SkyWalking
