import SkyWalking.Trace.Batch

/-!
# The limits of a correlation map

Three operations write the map of a context: `put_correlation` tests the number of entries before it
inserts, `extract` replaces the map by a received one, and `continued` merges a snapshot.
-/

namespace SkyWalking

/-- At most `correlation_element_max_number` entries, with values of at most
`correlation_value_max_length` characters. -/
def Correlation.WithinLimits (env : Env) (dict : Correlation) : Prop :=
  (dict.length : Int) ≤ env.correlationElementMaxNumber ∧
    ∀ entry ∈ dict, (entry.2.length : Int) ≤ env.correlationValueMaxLength

instance decidableWithinLimits (env : Env) (dict : Correlation) :
    Decidable (dict.WithinLimits env) :=
  inferInstanceAs (Decidable ((dict.length : Int) ≤ env.correlationElementMaxNumber ∧
    ∀ entry ∈ dict, (entry.2.length : Int) ≤ env.correlationValueMaxLength))

namespace SpanContext

/-- The map of a context. -/
def dict (w : World) (c : Nat) : Correlation := w.dicts.get (w.context c).correlation

/-- An entry that is put is refused, replaces an old one, or finds the map below its limit. -/
def PutFits (env : Env) (dict : Correlation) : Option String → Option String → Prop
  | some key, some value => (value.length : Int) ≤ env.correlationValueMaxLength →
      key ∈ dict.map Prod.fst ∨ (dict.length : Int) < env.correlationElementMaxNumber
  | _, _ => True

instance decidablePutFits (env : Env) (dict : Correlation) :
    ∀ key value, Decidable (PutFits env dict key value)
  | some key, some value => inferInstanceAs (Decidable
      ((value.length : Int) ≤ env.correlationValueMaxLength →
        key ∈ dict.map Prod.fst ∨ (dict.length : Int) < env.correlationElementMaxNumber))
  | none, _ | some _, none => inferInstanceAs (Decidable True)

/-- `continued` gets to the merge. -/
def Merges (task self : Nat) (snapshot : Snapshot) (w : World) : Prop :=
  (w.context self).noop = true ∨ w.view task ≠ [] ∧ isValidSnapshot snapshot = true ∧
    snapshot.segmentId ≠ some (w.context self).segment.segmentId.value

instance decidableMerges (task self : Nat) (snapshot : Snapshot) (w : World) :
    Decidable (Merges task self snapshot w) :=
  inferInstanceAs (Decidable ((w.context self).noop = true ∨ w.view task ≠ [] ∧
    isValidSnapshot snapshot = true ∧
    snapshot.segmentId ≠ some (w.context self).segment.segmentId.value))

/-- The entries with new keys find room. -/
def MergeFits (env : Env) (dict other : Correlation) : Prop :=
  (dict.length : Int) + (other.filter fun entry => entry.1 ∉ dict.map Prod.fst).length ≤
    env.correlationElementMaxNumber

instance decidableMergeFits (env : Env) (dict other : Correlation) :
    Decidable (MergeFits env dict other) :=
  inferInstanceAs (Decidable ((dict.length : Int) +
    (other.filter fun entry => entry.1 ∉ dict.map Prod.fst).length ≤
      env.correlationElementMaxNumber))

end SpanContext

/-- A call does not take a map beyond its limits. -/
def StaysWithin (env : Env) (w : World) : ApiAction → Prop
  | .putCorrelation self key value => SpanContext.PutFits env (SpanContext.dict w self) key value
  | .extract span carrier => (w.span span).cls ≠ .NoopSpan →
      (w.dicts.get (w.carriers.get carrier).correlation).WithinLimits env
  | .newSpan task self answers call => ∀ a ∈ call.carrier, call.Extracts task self answers w a →
      (w.dicts.get (w.carriers.get a).correlation).WithinLimits env
  | .continued task self snapshot =>
      SpanContext.Merges task self (w.snapshots.get snapshot) w →
        SpanContext.MergeFits env (SpanContext.dict w self)
          (w.dicts.get (w.snapshots.get snapshot).correlation)
  | _ => True

instance decidableExtracts (task self : Nat) (answers : Answers) (w : World) (carrier : Nat) :
    ∀ call : Call, Decidable (call.Extracts task self answers w carrier)
  | .newEntrySpan _ given inherit => inferInstanceAs (Decidable (given = some carrier ∧
      ((w.context self).noop = false ∧
        SpanContext.isIgnored answers (given.map w.carriers.get) = .ok false ∧
        SpanContext.reusesEntry (w.view task).getLast? inherit w = false) ∧
      (w.carriers.get carrier).isValid = .ok true))
  | .newLocalSpan _ | .newExitSpan _ _ _ _ => inferInstanceAs (Decidable False)

instance decidableStaysWithin (env : Env) (w : World) :
    ∀ action : ApiAction, Decidable (StaysWithin env w action)
  | .putCorrelation self key value => inferInstanceAs (Decidable
      (SpanContext.PutFits env (SpanContext.dict w self) key value))
  | .extract span carrier => inferInstanceAs (Decidable ((w.span span).cls ≠ .NoopSpan →
      (w.dicts.get (w.carriers.get carrier).correlation).WithinLimits env))
  | .newSpan task self answers call => inferInstanceAs (Decidable (∀ a ∈ call.carrier,
      call.Extracts task self answers w a →
        (w.dicts.get (w.carriers.get a).correlation).WithinLimits env))
  | .continued task self snapshot => inferInstanceAs (Decidable
      (SpanContext.Merges task self (w.snapshots.get snapshot) w →
        SpanContext.MergeFits env (SpanContext.dict w self)
          (w.dicts.get (w.snapshots.get snapshot).correlation)))
  | .spawn _ _ | .thread _ | .getContext _ _ | .start _ _ | .stop _ _ _ | .raised _ _ | .edit _ _
  | .inject _ | .receive _ _ | .capture _ _ | .wait _ => inferInstanceAs (Decidable True)

/-- The map of a context is within its limits, and a new value for a key that it has takes effect. -/
def SpanContext.KeepsLimits (env : Env) (w : World) (c : Nat) : Prop :=
  (dict w c).WithinLimits env ∧ ∀ key value, key ∈ (dict w c).map Prod.fst →
    (value.length : Int) ≤ env.correlationValueMaxLength →
    getCorrelation c key (putCorrelation env c (some key) (some value) w) = some value

end SkyWalking
