import SkyWalking.Meter.Histogram

/-!
# Meters

A meter has a name, a type and tags, and is transformed into the message that is reported. The labels of
the message are made of the tags when they are needed first, and kept.
-/

namespace SkyWalking

inductive MeterType where
  | gauge
  | counter
  | histogram
  deriving DecidableEq, Repr

structure MeterTag where
  key : String
  value : String
  deriving DecidableEq, Repr

/-- `MeterTag.__lt__`. -/
def MeterTag.lt (tag other : MeterTag) : Bool :=
  if tag.key ≠ other.key then decide (tag.key < other.key) else decide (tag.value < other.value)

/-- The message `Label`. -/
structure Label where
  name : String
  value : String
  deriving DecidableEq, Repr

structure MeterId where
  name : String
  type : MeterType
  tags : List MeterTag
  labels : Option (List Label) := none
  deriving DecidableEq, Repr

def MeterId.new (name : String) (type : MeterType) (tags : List (String × String)) : MeterId :=
  { name := name
    type := type
    tags := tags.map fun tag => ⟨tag.1, tag.2⟩ }

/-- The labels of the tags. -/
def MeterId.tagLabels (meterId : MeterId) : List Label :=
  meterId.tags.map fun tag => ⟨tag.key, tag.value⟩

def MeterId.transformTags (meterId : MeterId) : List Label :=
  meterId.labels.getD meterId.tagLabels

/-- `transform_tags` has been called. -/
def MeterId.labelled (meterId : MeterId) : MeterId :=
  { meterId with labels := some meterId.transformTags }

inductive CounterMode where
  | increment
  | rate
  deriving DecidableEq, Repr

/-- What the classes of meters add to `BaseMeter`. -/
inductive MeterKind (α : Type) [LinearOrder α] where
  | counter (mode : CounterMode) (count previous : α)
  /-- `generator` yields these values, and `drawn` of them were drawn. -/
  | gauge (generator : Nat → Option α) (drawn : Nat)
  | histogram (histogram : Histogram α)

def MeterKind.getType {α : Type} [LinearOrder α] : MeterKind α → MeterType
  | .counter .. => .counter
  | .gauge .. => .gauge
  | .histogram _ => .histogram

structure Meter (α : Type) [LinearOrder α] where
  meterId : MeterId
  kind : MeterKind α

/-- The message `MeterSingleValue` or `MeterHistogram`. -/
inductive Metric (α : Type) where
  | singleValue (name : String) (labels : List Label) (value : α)
  | histogram (name : String) (labels : List Label) (values : List (Bucket α))
  deriving DecidableEq, Repr

def Metric.name {α : Type} : Metric α → String
  | .singleValue name _ _ | .histogram name _ _ => name

def Metric.labels {α : Type} : Metric α → List Label
  | .singleValue _ labels _ | .histogram _ labels _ => labels

structure MeterData (α : Type) where
  metric : Metric α
  service : String
  serviceInstance : String
  timestamp : Int
  deriving DecidableEq, Repr

namespace Meter

variable {α : Type} [LinearOrder α]

def getName (m : Meter α) : String := m.meterId.name

/-- Two meters are the same if they agree in name, type and tags; the tags of a built meter are sorted. -/
def identity (m : Meter α) : String × MeterType × List MeterTag :=
  (m.meterId.name, m.meterId.type, m.meterId.tags)

section Transform

variable [Zero α] [Add α] [Sub α]

/-- The value that is reported, and what reporting it changes. -/
def MeterKind.transform : MeterKind α → (α ⊕ List (Bucket α)) × MeterKind α
  | .counter .rate count previous => (.inl (count - previous), .counter .rate count count)
  | .counter .increment count previous => (.inl count, .counter .increment count previous)
  | .gauge generator drawn =>
      match generator drawn with
      | none => (.inl 0, .gauge generator drawn)
      | some data => (.inl data, .gauge generator (drawn + 1))
  | .histogram histogram => (.inr histogram.buckets, .histogram histogram)

/-- The message, and the meter after it was made. -/
def transform (m : Meter α) : Metric α × Meter α :=
  let (value, kind) := MeterKind.transform m.kind
  let labels := m.meterId.transformTags
  let metric := match value with
    | .inl value => .singleValue m.getName labels value
    | .inr values => .histogram m.getName labels values
  (metric, { meterId := m.meterId.labelled, kind := kind })

/-- `Counter.increment`; the other meters have no such method. -/
def increment (m : Meter α) (value : α) : Meter α :=
  match m.kind with
  | .counter mode count previous => { m with kind := .counter mode (count + value) previous }
  | .gauge .. | .histogram _ => m

end Transform

/-- `Histogram.add_value`. -/
def addValue (m : Meter α) (value : α) : Meter α :=
  match m.kind with
  | .histogram histogram => { m with kind := .histogram (histogram.addValue value) }
  | .counter .. | .gauge .. => m

/-- The constructor of a meter. -/
def new (name : String) (kind : MeterKind α) (tags : List (String × String)) : Meter α :=
  { meterId := .new name kind.getType tags
    kind := kind }

/-- `Builder.tag`. -/
def tag (m : Meter α) (name value : String) : Meter α :=
  { m with meterId := { m.meterId with tags := m.meterId.tags ++ [⟨name, value⟩] } }

/-- `Builder.build` before the registration: the sort is stable. -/
def sortTags (m : Meter α) : Meter α :=
  { m with
    meterId := { m.meterId with
      tags := m.meterId.tags.insertionSort fun tag other => other.lt tag = false } }

/-- `Builder(name, ..., tags).tag(...)...` up to the registration. -/
def build (name : String) (kind : MeterKind α) (tags added : List (String × String)) : Meter α :=
  (added.foldl (fun m pair => m.tag pair.1 pair.2) (new name kind tags)).sortTags

end Meter

end SkyWalking
