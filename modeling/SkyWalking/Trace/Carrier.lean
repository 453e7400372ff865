import SkyWalking.Lib.Base64
import SkyWalking.Lib.Text
import SkyWalking.Trace.Basic

/-!
# Carriers and the two propagation headers

`trace/carrier.py` with `b64encode` and `b64decode` of `utils/lang.py`. A property setter that raises
keeps what it assigned before, so a setter returns the object it leaves behind next to its outcome.
-/

namespace SkyWalking

def b64encode (s : String) : String :=
  String.ofList (Base64.encode s.toByteArray.data.toList)

/-- The error of `binascii` for a text. -/
def Base64.Error.toPyError (text : List Char) : Base64.Error → PyError
  | .invalidLength => .binasciiError ("Invalid base64-encoded string: number of data characters (" ++
      toString (Base64.dataCharacters text) ++ ") cannot be 1 more than a multiple of 4")
  | .incorrectPadding => .binasciiError "Incorrect padding"

/-- `base64.b64decode` takes ASCII only; then the bytes have to be UTF-8. -/
def b64decode (s : String) : Except PyError String :=
  if s.toList.all (·.toNat < 128) then
    match Base64.decode s.toList with
    | .error error => .error (Base64.Error.toPyError s.toList error)
    | .ok bytes =>
        match String.fromUTF8? ⟨bytes.toArray⟩ with
        | some text => .ok text
        | none => .error .unicodeDecodeError
  else .error .valueError

/-- The `span_id` attribute: a text in a carrier that was received or injected, a number in the one
that `SegmentRef.build_ref` fills from a snapshot. -/
inductive SpanId where
  | str (text : String)
  | int (number : Int)
  deriving DecidableEq, Repr

def SpanId.isnumeric : SpanId → Except PyError Bool
  | .str text => .ok (Text.isnumeric text)
  | .int _ => .error .attributeError

/-- `int(span_id)`. -/
def SpanId.toInt : SpanId → Except PyError Int
  | .str text => match Text.int? text with
      | some number => .ok number
      | none => .error .valueError
  | .int number => .ok number

/-- `Carrier`. The correlation map is an object of its own, shared with contexts: `correlation` is its
address. `val` is the text last assigned to the item. -/
structure Carrier where
  val : Option String
  traceId : String
  segmentId : String
  spanId : SpanId
  service : String
  serviceInstance : String
  endpoint : Option String
  clientAddress : Option String
  correlation : Nat
  deriving DecidableEq, Repr

/-- `Carrier()` around a correlation map. -/
def Carrier.fresh (correlation : Nat) : Carrier :=
  { val := none
    traceId := ""
    segmentId := ""
    spanId := .str ""
    service := ""
    serviceInstance := ""
    endpoint := some ""
    clientAddress := some ""
    correlation := correlation }

/-- The getter of `Carrier.val`: a missing text or a number cannot be encoded. -/
def Carrier.getVal (carrier : Carrier) : Except PyError String :=
  match carrier.spanId, carrier.endpoint, carrier.clientAddress with
  | .str spanId, some endpoint, some clientAddress =>
      .ok (Text.join '-' ["1", b64encode carrier.traceId, b64encode carrier.segmentId, spanId,
        b64encode carrier.service, b64encode carrier.serviceInstance, b64encode endpoint,
        b64encode clientAddress])
  | .int _, some _, some _ => .error .typeError
  | _, _, _ => .error .attributeError

/-- The setter of `Carrier.val`. The fields are decoded and assigned one after the other. -/
def Carrier.setVal (carrier : Carrier) (val : String) : Carrier × Except PyError Unit :=
  let carrier := { carrier with val := some val }
  if val = "" then (carrier, .ok ())
  else
    match Text.split '-' val with
    | [_, traceId, segmentId, spanId, service, serviceInstance, endpoint, clientAddress] =>
        match b64decode traceId with
        | .error error => (carrier, .error error)
        | .ok traceId =>
        let carrier := { carrier with traceId := traceId }
        match b64decode segmentId with
        | .error error => (carrier, .error error)
        | .ok segmentId =>
        let carrier := { carrier with segmentId := segmentId, spanId := .str spanId }
        match b64decode service with
        | .error error => (carrier, .error error)
        | .ok service =>
        let carrier := { carrier with service := service }
        match b64decode serviceInstance with
        | .error error => (carrier, .error error)
        | .ok serviceInstance =>
        let carrier := { carrier with serviceInstance := serviceInstance }
        match b64decode endpoint with
        | .error error => (carrier, .error error)
        | .ok endpoint =>
        let carrier := { carrier with endpoint := some endpoint }
        match b64decode clientAddress with
        | .error error => (carrier, .error error)
        | .ok clientAddress =>
            ({ carrier with clientAddress := some clientAddress }, .ok ())
    | _ => (carrier, .ok ())

/-- `len(text) > 0`, which raises on `None`. -/
def lenPos : Option String → Except PyError Bool
  | some text => .ok (0 < text.length)
  | none => .error .typeError

/-- `left and right` over tests that may raise. -/
def andThen (left right : Except PyError Bool) : Except PyError Bool :=
  match left with
  | .ok true => right
  | outcome => outcome

def Carrier.isValid (carrier : Carrier) : Except PyError Bool :=
  andThen (lenPos carrier.traceId) <|
  andThen (lenPos carrier.segmentId) <|
  andThen (lenPos carrier.service) <|
  andThen (lenPos carrier.serviceInstance) <|
  andThen (lenPos carrier.endpoint) <|
  andThen (lenPos carrier.clientAddress) carrier.spanId.isnumeric

/-- Something was assigned to the item, and the carrier is not valid. -/
def Carrier.isSuppressed (carrier : Carrier) : Except PyError Bool :=
  match carrier.val with
  | none => .ok false
  | some val => if val = "" then .ok false else carrier.isValid.map (!·)

/-- The getter of `SW8CorrelationCarrier.val`. -/
def Correlation.getVal (dict : Correlation) : String :=
  if dict = [] then ""
  else Text.join ',' (dict.map fun entry =>
    Text.join ':' [b64encode entry.1, b64encode entry.2])

/-- The loop of the setter of `SW8CorrelationCarrier.val` over the comma-separated entries. -/
def Correlation.setEntries (env : Env) : Correlation → List String → Correlation × Except PyError Unit
  | dict, [] => (dict, .ok ())
  | dict, per :: rest =>
      if env.correlationElementMaxNumber < dict.length then (dict, .ok ())
      else
        match Text.split ':' per with
        | [key, value] =>
            -- the assigned value is evaluated before the subscript
            match b64decode value with
            | .error error => (dict, .error error)
            | .ok value =>
            match b64decode key with
            | .error error => (dict, .error error)
            | .ok key => Correlation.setEntries env (dict.insert key value) rest
        | _ => Correlation.setEntries env dict rest

/-- The setter of `SW8CorrelationCarrier.val`. -/
def Correlation.setVal (env : Env) (dict : Correlation) (val : String) :
    Correlation × Except PyError Unit :=
  if val = "" then (dict, .ok ()) else Correlation.setEntries env dict (Text.split ',' val)

/-- The two objects in `Carrier.items`. -/
inductive CarrierItem where
  | correlationCarrier
  | sw8
  deriving DecidableEq, Repr

/-- A carrier next to what its correlation map holds. -/
structure CarrierObject where
  carrier : Carrier
  dict : Correlation
  deriving DecidableEq, Repr

/-- `Carrier()`; its map is a new object. -/
def CarrierObject.new (correlation : Nat) : CarrierObject := ⟨Carrier.fresh correlation, []⟩

/-- `item.val`. -/
def CarrierObject.getItem (object : CarrierObject) : CarrierItem → Except PyError String
  | .correlationCarrier => .ok object.dict.getVal
  | .sw8 => object.carrier.getVal

/-- `item.val = val`. -/
def CarrierObject.setItem (env : Env) (object : CarrierObject) (val : String) :
    CarrierItem → CarrierObject × Except PyError Unit
  | .correlationCarrier =>
      let (dict, outcome) := Correlation.setVal env object.dict val
      ({ object with dict := dict }, outcome)
  | .sw8 =>
      let (carrier, outcome) := object.carrier.setVal val
      ({ object with carrier := carrier }, outcome)

/-- One assignment after the other, up to the first one that raises. -/
def CarrierObject.setItems (env : Env) :
    CarrierObject → List (CarrierItem × String) → CarrierObject × Except PyError Unit
  | object, [] => (object, .ok ())
  | object, (item, val) :: rest =>
      match object.setItem env val item with
      | (object, .error error) => (object, .error error)
      | (object, .ok ()) => CarrierObject.setItems env object rest

end SkyWalking
