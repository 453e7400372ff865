import SkyWalking.Trace.Propagation

/-!
# Carriers out of received headers

`Span.extract` as it meets whatever text a header holds. The interpreter converts texts of at most
`limit` digits, unless the limit is lifted by zero. A consumer of a batch calls it once for each record.
-/

namespace SkyWalking

/-- `int(span_id)` under the limit. -/
def SpanId.toIntWithin (limit : Nat) : SpanId → Except PyError Int
  | .str text => match Text.intWithin? limit text with
      | some number => .ok number
      | none => .error .valueError
  | .int number => .ok number

/-- The constructor of `SegmentRef` under the limit. -/
def SegmentRef.ofCarrierWithin (limit : Nat) (carrier : Carrier) (refType : String) :
    Except PyError SegmentRef :=
  (carrier.spanId.toIntWithin limit).map (carrier.toRef refType)

/-- `Span.extract` for a carrier other than `None`, under the limit. -/
def Span.extractWithin (env : Env) (limit span : Nat) (carrier : Carrier) (w : World) :
    World × Except PyError Unit :=
  let (w, traceId) := idOf env carrier.traceId w
  let w := w.modifyContext (w.span span).context (SpanContext.relate traceId)
  let w := w.modifyContext (w.span span).context (SpanContext.withCorrelation carrier.correlation)
  match carrier.isValid with
  | .error error => (w, .error error)
  | .ok false => (w, .ok ())
  | .ok true =>
      match SegmentRef.ofCarrierWithin limit carrier "CrossProcess" with
      | .error error => (w, .error error)
      | .ok ref =>
          if ref ∈ (w.span span).refs then (w, .ok ())
          else (w.modifySpan span (Span.addRef ref), .ok ())

/-- One call for each carrier; a call that raises keeps what it changed before. -/
def Span.extractAll (env : Env) (limit span : Nat) (carriers : List Carrier) (w : World) : World :=
  carriers.foldl (fun w carrier => (Span.extractWithin env limit span carrier w).1) w

/-- `carrier.is_valid` is true. -/
abbrev Carrier.Valid (carrier : Carrier) : Prop := carrier.isValid = .ok true

/-- The call returned, and the span has the reference to the span that the carrier names: its number is
the one that the span id denotes, and an equal reference is not repeated. -/
structure Referenced (span : Nat) (carrier : Carrier) (w w' : World)
    (outcome : Except PyError Unit) : Prop where
  returned : outcome = .ok ()
  refs : ∃ (text : String) (number : Nat), carrier.spanId = .str text ∧
    Text.Denotes text number ∧ (w'.span span).refs =
      if carrier.toRef "CrossProcess" number ∈ (w.span span).refs then (w.span span).refs
      else (w.span span).refs ++ [carrier.toRef "CrossProcess" number]

/-- The span id can be converted to a number. -/
def Carrier.Numbered (limit : Nat) (carrier : Carrier) : Prop :=
  ∃ text, carrier.spanId = .str text ∧ Text.Convertible limit text

/-- What a batch of carriers should leave in an entry span and in its segment, whose own trace id is
`own`. -/
structure KeepsIdentity (own : String) (limit span : Nat) (carriers : List Carrier) (w' : World) :
    Prop where
  first : (w'.context (w'.span span).context).traceId =
    some (((carriers.filter (·.Valid)).head?.map Carrier.traceId).getD own)
  known : ∀ id ∈ (w'.context (w'.span span).context).segment.relatedTraces,
    id.value = own ∨ ∃ carrier ∈ carriers, carrier.Valid ∧ carrier.traceId = id.value
  refs : ∃ refs : List SegmentRef,
    (carriers.filter (·.Valid)).map (SegmentRef.ofCarrierWithin limit · "CrossProcess") =
      refs.map .ok ∧ (w'.span span).refs = refs.eraseDups

/-- The trace ids that stay in the segment when the carriers are extracted: the first one of them takes
the place of an id that the segment generated itself. -/
def Segment.lasting (segment : Segment) : List Carrier → List ID
  | [] => segment.relatedTraces
  | _ :: _ => segment.relatedTraces.filter (·.cls ≠ .NewID)

/-- The reference that a call finds or makes. -/
def Carrier.ref? (limit : Nat) (carrier : Carrier) : Option SegmentRef :=
  if carrier.Valid then (SegmentRef.ofCarrierWithin limit carrier "CrossProcess").toOption else none

/-- The valid carriers can be referenced, and the others bring no trace id of their own. What earlier
calls left in `segment` and in `refs`, the references of the span, is what the carriers would leave too;
a span that has not extracted anything has nothing left. -/
structure Harmless (own : String) (limit : Nat) (carriers : List Carrier) (segment : Segment)
    (refs : List SegmentRef) : Prop where
  numbered : ∀ carrier ∈ carriers, carrier.Valid → carrier.Numbered limit
  named : ∀ carrier ∈ carriers, carrier.traceId ≠ ""
  known : ∀ carrier ∈ carriers, ¬ carrier.Valid →
    carrier.traceId = own ∨ ∃ carrier' ∈ carriers, carrier'.Valid ∧ carrier'.traceId = carrier.traceId
  lasting : ∀ id ∈ segment.lasting carriers,
    id.value = own ∨ ∃ carrier ∈ carriers, carrier.Valid ∧ carrier.traceId = id.value
  first : ((segment.lasting carriers).map ID.value ++ carriers.map Carrier.traceId).head? =
    some (((carriers.filter (·.Valid)).head?.map Carrier.traceId).getD own)
  refs : refs <+: (carriers.filterMap (Carrier.ref? limit)).eraseDups

/-- The identifiers that are still to be drawn occur nowhere yet. -/
def Undrawn (env : Env) (own : String) (carriers : List Carrier) (w : World) : Prop :=
  ∀ n, w.uuids ≤ n → env.uuid1 n ≠ own ∧ ∀ carrier ∈ carriers, carrier.traceId ≠ env.uuid1 n

end SkyWalking
