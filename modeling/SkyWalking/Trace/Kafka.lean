import SkyWalking.Lib.Bytes
import SkyWalking.Trace.Propagation

/-!
# Record headers of `plugins/sw_kafka.py`

The wrapper of `KafkaProducer.send` up to the call of the original, and what the wrapper of
`KafkaConsumer._poll_once` does with one record. The broker hands on the list of headers as it is.
-/

namespace SkyWalking

/-- The settings under which a topic belongs to the agent itself. -/
structure KafkaTopics where
  agentProtocol : String
  segment : String
  log : String
  management : String
  meter : String
  deriving DecidableEq, Repr

/-- A record header: `(str, bytes)`. -/
abbrev Header := String × List UInt8

def CarrierItem.key : CarrierItem → String
  | .correlationCarrier => "sw8-correlation"
  | .sw8 => "sw8"

/-- `Carrier.items`, in the order of the iteration. -/
def CarrierItem.items : List CarrierItem := [.correlationCarrier, .sw8]

namespace Kafka

/-- The topics on which the agent reports. -/
def isReporting (topics : KafkaTopics) (topic : String) : Bool :=
  topics.agentProtocol = "kafka" &&
    (topics.segment = topic || topics.log = topic || topics.management = topic ||
      topics.meter = topic)

/-- `for item in carrier: headers.append((item.key, item.val.encode('utf-8')))`. -/
def appendItems (object : CarrierObject) : List CarrierItem → List Header → Except PyError (List Header)
  | [], headers => .ok headers
  | item :: rest, headers =>
      match object.getItem item with
      | .error error => .error error
      | .ok val => appendItems object rest (headers ++ [(item.key, Bytes.ofText val)])

/-- `_sw_send`, up to the call of `_send`: the span around the call and the headers that are passed
on. -/
def swSend (env : Env) (task : Nat) (answers : Answers) (sampled : Bool) (topics : KafkaTopics)
    (bootstrapServers : List String) (topic : String) (headers : Option (List Header)) (w : World) :
    World × Except PyError (Option Nat × Option (List Header)) :=
  if isReporting topics topic then (w, .ok (none, headers))
  else
    let peer := Text.join ';' bootstrapServers
    let (w, context) := getContext env task sampled w
    match SpanContext.newExitSpan env task context answers ("Kafka/" ++ topic ++ "/Producer")
        (some peer) (some .KafkaProducer) none w with
    | (w, .error error) => (w, .error error)
    | (w, .ok span) =>
        match Span.inject env span (Span.start task span w) with
        | (w, .error error) => (w, .error error)
        | (w, .ok carrier) =>
            let w := w.modifySpan span fun span => { span with layer := .MQ }
            let carrier := w.carriers.get carrier
            match appendItems ⟨carrier, w.dicts.get carrier.correlation⟩ CarrierItem.items
                (headers.getD []) with
            | .error error => (w, .error error)
            | .ok headers => (w, .ok (some span, some headers))

/-- `for header in record.headers`, for one item of the carrier. -/
def setFromHeaders (env : Env) (item : CarrierItem) :
    List Header → CarrierObject → CarrierObject × Except PyError Unit
  | [], object => (object, .ok ())
  | header :: rest, object =>
      if item.key = header.1 then
        match object.setItem env (Bytes.str header.2) item with
        | (object, .error error) => (object, .error error)
        | (object, .ok ()) => setFromHeaders env item rest object
      else setFromHeaders env item rest object

/-- `for item in carrier`. -/
def setAll (env : Env) (headers : List Header) :
    List CarrierItem → CarrierObject → CarrierObject × Except PyError Unit
  | [], object => (object, .ok ())
  | item :: rest, object =>
      match setFromHeaders env item headers object with
      | (object, .error error) => (object, .error error)
      | (object, .ok ()) => setAll env headers rest object

/-- The carrier that is made for a record; its map gets the address `correlation`. -/
def readCarrier (env : Env) (headers : List Header) (correlation : Nat) :
    CarrierObject × Except PyError Unit :=
  setAll env headers CarrierItem.items (CarrierObject.new correlation)

/-- One round of the loop over the records: `span` takes the carrier of the record. -/
def extractRecord (env : Env) (span : Nat) (headers : List Header) (w : World) :
    World × Except PyError Unit :=
  let (object, outcome) := readCarrier env headers w.dicts.size
  let w := { w with
    dicts := w.dicts.alloc object.dict
    carriers := w.carriers.alloc object.carrier }
  match outcome with
  | .error error => (w, .error error)
  | .ok () => Span.extract env span object.carrier w

/-- The carrier that `span.inject()` makes, next to what its map holds. -/
def injected (env : Env) (span : Nat) (w : World) : CarrierObject :=
  let carrier := Span.carrierOf env span w
  ⟨carrier, w.dicts.get carrier.correlation⟩

/-- The reference by which a span names the exit span `span` of another service. -/
def producerRef (env : Env) (span : Nat) (w : World) : SegmentRef :=
  { refType := "CrossProcess"
    traceId := (Span.carrierOf env span w).traceId
    segmentId := (w.context (w.span span).context).segment.segmentId.value
    spanId := (w.span span).sid
    service := env.agentName
    serviceInstance := env.agentInstanceName
    endpoint := some (w.span span).op
    clientAddress := (w.span span).peer }

/-- A consumer with the settings `env'` reads from the headers what the exit span `span` injected: the
seven fields and the map, and every span that takes the carrier refers to the exit span. -/
structure Delivers (env env' : Env) (span : Nat) (headers : List Header) (w : World) : Prop where
  fields : ∀ correlation, ∃ object, readCarrier env' headers correlation = (object, .ok ()) ∧
    object.carrier.SameFields (injected env span w).carrier ∧
    object.dict = (injected env span w).dict
  referred : ∀ (consumer : World) (s : Nat), (consumer.span s).cls ≠ .NoopSpan →
    (extractRecord env' s headers consumer).2 = .ok () ∧
      producerRef env span w ∈ ((extractRecord env' s headers consumer).1.span s).refs

end Kafka

end SkyWalking
