import SkyWalking.Trace.Api

/-!
# What holds of the objects of a process

`WorldOk` is the invariant of all runs of the API that the propagation results need: trace ids are not
empty, references lead to objects that exist, a snapshot shares its map with nobody. `Evolves` says
what a run can do to an object that exists already.
-/

namespace SkyWalking

/-- A segment is related to at least one trace, no trace id is empty, and the one that the segment
generated itself stands alone. -/
def Segment.TracesOk (segment : Segment) : Prop :=
  segment.relatedTraces ≠ [] ∧ (∀ id ∈ segment.relatedTraces, id.value ≠ "") ∧
    ∀ id ∈ segment.relatedTraces, id.cls = .NewID → segment.relatedTraces = [id]

/-- The keys of a dictionary are distinct. -/
def Correlation.KeysOk (dict : Correlation) : Prop := (dict.map Prod.fst).Nodup

structure WorldOk (env : Env) (w : World) : Prop where
  vars_lt : ∀ t list, w.vars t = some list → list < w.lists.size
  view_lt : ∀ t, ∀ s ∈ w.view t, s < w.spans.size
  span_context : ∀ s < w.spans.size, (w.span s).context < w.contexts.size
  traces : ∀ c < w.contexts.size, (w.context c).noop = false → (w.context c).segment.TracesOk
  segment_id : ∀ c < w.contexts.size, (w.context c).noop = false →
    ∃ k < w.uuids, (w.context c).segment.segmentId.value = env.uuid1 k
  correlation_lt : ∀ c < w.contexts.size, (w.context c).correlation < w.dicts.size
  carrier_lt : ∀ a < w.carriers.size, (w.carriers.get a).correlation < w.dicts.size
  snapshot_lt : ∀ a < w.snapshots.size, (w.snapshots.get a).correlation < w.dicts.size
  snapshot_context : ∀ a < w.snapshots.size, ∀ c < w.contexts.size,
    (w.context c).correlation ≠ (w.snapshots.get a).correlation
  snapshot_carrier : ∀ a < w.snapshots.size, ∀ b < w.carriers.size,
    (w.carriers.get b).correlation ≠ (w.snapshots.get a).correlation
  keys : ∀ d, (w.dicts.get d).KeysOk

structure Evolves (w w' : World) : Prop where
  spans_le : w.spans.size ≤ w'.spans.size
  contexts_le : w.contexts.size ≤ w'.contexts.size
  carriers_le : w.carriers.size ≤ w'.carriers.size
  snapshots_le : w.snapshots.size ≤ w'.snapshots.size
  uuids_le : w.uuids ≤ w'.uuids
  span_same : ∀ s < w.spans.size,
    (w'.span s).cls = (w.span s).cls ∧ (w'.span s).context = (w.span s).context
  context_same : ∀ c < w.contexts.size, (w'.context c).noop = (w.context c).noop ∧
    (w'.context c).segment.segmentId = (w.context c).segment.segmentId
  trace_kept : ∀ c < w.contexts.size, ∀ id rest, (w.context c).segment.relatedTraces = id :: rest →
    id.cls ≠ .NewID → ∃ rest', (w'.context c).segment.relatedTraces = id :: rest'
  snapshot_same : ∀ a < w.snapshots.size, w'.snapshots.get a = w.snapshots.get a
  snapshot_dict : ∀ a < w.snapshots.size, w'.dicts.get (w.snapshots.get a).correlation =
    w.dicts.get (w.snapshots.get a).correlation

end SkyWalking
