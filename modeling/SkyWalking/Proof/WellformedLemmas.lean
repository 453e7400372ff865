import SkyWalking.Trace.Wellformed
import SkyWalking.Proof.ApiLemmas

/-!
# Runs keep objects well formed

One lemma for each primitive update of the world, then one for each call of the API.
-/

namespace SkyWalking

open World

variable {env : Env} {w w' w'' : World}

namespace Correlation.KeysOk

variable {dict : Correlation}

theorem nil : KeysOk [] := List.nodup_nil

theorem insert (hkeys : dict.KeysOk) (key value : String) : (dict.insert key value).KeysOk := by
  unfold Correlation.insert
  split
  · have hsame : (dict.map fun entry => if entry.1 = key then (key, value) else entry).map Prod.fst =
        dict.map Prod.fst := by
      rw [List.map_map]
      refine List.map_congr_left fun entry _ => ?_
      simp only [Function.comp_apply]
      split
      · next heq => exact heq.symm
      · rfl
    rw [Correlation.KeysOk, hsame]
    exact hkeys
  · next hnew =>
    rw [Correlation.KeysOk, List.map_append, List.nodup_append]
    refine ⟨hkeys, by simp, ?_⟩
    intro x hx y hy
    rw [List.map_singleton, List.mem_singleton] at hy
    rintro rfl
    rw [hy] at hx
    exact hnew hx

theorem remove (hkeys : dict.KeysOk) (key : String) : (dict.remove key).KeysOk :=
  (List.filter_sublist.map Prod.fst).nodup hkeys

theorem update (hkeys : dict.KeysOk) (other : Correlation) : (dict.update other).KeysOk := by
  unfold Correlation.update
  induction other generalizing dict with
  | nil => exact hkeys
  | cons entry rest ih => exact ih (hkeys.insert entry.1 entry.2)

theorem setEntries (hkeys : dict.KeysOk) (env : Env) (entries : List String) :
    (dict.setEntries env entries).1.KeysOk := by
  fun_induction Correlation.setEntries env dict entries with
  | case1 => exact hkeys
  | case2 => exact hkeys
  | case3 => exact hkeys
  | case4 => exact hkeys
  | case5 _ _ _ _ _ _ _ value _ key _ ih => exact ih (hkeys.insert _ _)
  | case6 _ _ _ _ _ ih => exact ih hkeys

theorem setVal (hkeys : dict.KeysOk) (env : Env) (val : String) :
    (dict.setVal env val).1.KeysOk := by
  unfold Correlation.setVal
  split
  · exact hkeys
  · exact hkeys.setEntries env _

theorem putDict (hkeys : dict.KeysOk) (env : Env) (key value : Option String) :
    (SpanContext.putDict env key value dict).KeysOk := by
  unfold SpanContext.putDict
  split
  · exact hkeys
  · exact hkeys.remove _
  · split
    · exact hkeys
    · split
      · exact hkeys
      · exact hkeys.insert _ _

end Correlation.KeysOk

theorem Carrier.setVal_correlation (carrier : Carrier) (val : String) :
    (carrier.setVal val).1.correlation = carrier.correlation := by
  unfold Carrier.setVal
  dsimp only
  repeat' split
  all_goals rfl

theorem Evolves.refl (w : World) : Evolves w w where
  spans_le := le_refl _
  contexts_le := le_refl _
  carriers_le := le_refl _
  snapshots_le := le_refl _
  uuids_le := le_refl _
  span_same _ _ := ⟨rfl, rfl⟩
  context_same _ _ := ⟨rfl, rfl⟩
  trace_kept _ _ _ rest h _ := ⟨rest, h⟩
  snapshot_same _ _ := rfl
  snapshot_dict _ _ := rfl

theorem Evolves.trans (h : Evolves w w') (h' : Evolves w' w'') : Evolves w w'' where
  spans_le := h.spans_le.trans h'.spans_le
  contexts_le := h.contexts_le.trans h'.contexts_le
  carriers_le := h.carriers_le.trans h'.carriers_le
  snapshots_le := h.snapshots_le.trans h'.snapshots_le
  uuids_le := h.uuids_le.trans h'.uuids_le
  span_same s hs := by
    obtain ⟨hcls, hcontext⟩ := h.span_same s hs
    obtain ⟨hcls', hcontext'⟩ := h'.span_same s (hs.trans_le h.spans_le)
    exact ⟨hcls'.trans hcls, hcontext'.trans hcontext⟩
  context_same c hc := by
    obtain ⟨hnoop, hid⟩ := h.context_same c hc
    obtain ⟨hnoop', hid'⟩ := h'.context_same c (hc.trans_le h.contexts_le)
    exact ⟨hnoop'.trans hnoop, hid'.trans hid⟩
  trace_kept c hc id rest hhead hcls := by
    obtain ⟨rest', hrest'⟩ := h.trace_kept c hc id rest hhead hcls
    exact h'.trace_kept c (hc.trans_le h.contexts_le) id rest' hrest' hcls
  snapshot_same a ha :=
    (h'.snapshot_same a (ha.trans_le h.snapshots_le)).trans (h.snapshot_same a ha)
  snapshot_dict a ha := by
    have hdict' := h'.snapshot_dict a (ha.trans_le h.snapshots_le)
    rw [h.snapshot_same a ha] at hdict'
    exact hdict'.trans (h.snapshot_dict a ha)

/-- A part of a call: it keeps well-formed worlds well formed. -/
def Keeps (env : Env) (w w' : World) : Prop := WorldOk env w → WorldOk env w' ∧ Evolves w w'

namespace Keeps

theorem refl (w : World) : Keeps env w w := fun hok => ⟨hok, .refl w⟩

theorem trans (h : Keeps env w w') (h' : Keeps env w' w'') : Keeps env w w'' := by
  intro hok
  obtain ⟨hok', hevolves⟩ := h hok
  obtain ⟨hok'', hevolves'⟩ := h' hok'
  exact ⟨hok'', hevolves.trans hevolves'⟩

/-- The second part may use that the worlds before it are well formed. -/
theorem andThen (h : Keeps env w w')
    (h' : WorldOk env w → WorldOk env w' → Evolves w w' → Keeps env w' w'') : Keeps env w w'' := by
  intro hok
  obtain ⟨hok', hevolves⟩ := h hok
  obtain ⟨hok'', hevolves'⟩ := h' hok hok' hevolves hok'
  exact ⟨hok'', hevolves.trans hevolves'⟩

theorem modifySpan (s : Nat) {f : Span → Span}
    (hf : ∀ span, (f span).cls = span.cls ∧ (f span).context = span.context) :
    Keeps env w (w.modifySpan s f) := by
  have hsame : ∀ x, ((w.modifySpan s f).span x).cls = (w.span x).cls ∧
      ((w.modifySpan s f).span x).context = (w.span x).context := by
    intro x
    simp only [World.span, World.modifySpan, Store.get_modify]
    split
    · exact hf _
    · exact ⟨rfl, rfl⟩
  intro hok
  refine ⟨⟨hok.vars_lt, hok.view_lt, ?_, hok.traces, hok.segment_id, hok.correlation_lt,
    hok.carrier_lt, hok.snapshot_lt, hok.snapshot_context, hok.snapshot_carrier, hok.keys⟩,
    { Evolves.refl w with span_same := fun x _ => hsame x }⟩
  intro x hx
  rw [(hsame x).2]
  exact hok.span_context x hx

/-- What an update of a context has to keep; the map may be replaced by one that no snapshot owns. -/
structure ContextUpdate (w : World) (context context' : SpanContext) : Prop where
  noop : context'.noop = context.noop
  segmentId : context'.segment.segmentId = context.segment.segmentId
  tracesOk : context.segment.TracesOk → context'.segment.TracesOk
  traceKept : ∀ first rest, context.segment.relatedTraces = first :: rest → first.cls ≠ .NewID →
    ∃ rest', context'.segment.relatedTraces = first :: rest'
  correlation : context'.correlation = context.correlation ∨
    context'.correlation < w.dicts.size ∧
      ∀ a < w.snapshots.size, context'.correlation ≠ (w.snapshots.get a).correlation

theorem ContextUpdate.refl (w : World) (context : SpanContext) : ContextUpdate w context context where
  noop := rfl
  segmentId := rfl
  tracesOk := id
  traceKept _ rest hfirst _ := ⟨rest, hfirst⟩
  correlation := Or.inl rfl

theorem updateContext (c : Nat) {f : SpanContext → SpanContext}
    (hf : ∀ context, ContextUpdate w context (f context)) : Keeps env w (w.modifyContext c f) := by
  have hupdate : ∀ x, ContextUpdate w (w.context x) ((w.modifyContext c f).context x) := by
    intro x
    simp only [World.context, World.modifyContext, Store.get_modify]
    split
    · exact hf _
    · exact ContextUpdate.refl w _
  intro hok
  refine ⟨⟨hok.vars_lt, hok.view_lt, hok.span_context, ?_, ?_, ?_, hok.carrier_lt,
    hok.snapshot_lt, ?_, hok.snapshot_carrier, hok.keys⟩, ?_⟩
  · intro x hx hreal
    rw [(hupdate x).noop] at hreal
    exact (hupdate x).tracesOk (hok.traces x hx hreal)
  · intro x hx hreal
    rw [(hupdate x).noop] at hreal
    rw [(hupdate x).segmentId]
    exact hok.segment_id x hx hreal
  · intro x hx
    obtain hsame | hnew := (hupdate x).correlation
    · rw [hsame]
      exact hok.correlation_lt x hx
    · exact hnew.1
  · intro a ha x hx
    obtain hsame | hnew := (hupdate x).correlation
    · rw [hsame]
      exact hok.snapshot_context a ha x hx
    · exact hnew.2 a ha
  · exact { Evolves.refl w with
      context_same := fun x _ => ⟨(hupdate x).noop, (hupdate x).segmentId⟩
      trace_kept := fun x _ first rest hfirst hcls => (hupdate x).traceKept first rest hfirst hcls }

/-- Updates of a context that leave its sort, its ids and its map alone. -/
theorem modifyContext (c : Nat) {f : SpanContext → SpanContext}
    (hf : ∀ context, (f context).noop = context.noop ∧
      (f context).segment.segmentId = context.segment.segmentId ∧
      (f context).segment.relatedTraces = context.segment.relatedTraces ∧
      (f context).correlation = context.correlation) :
    Keeps env w (w.modifyContext c f) := by
  apply updateContext
  intro context
  obtain ⟨hnoop, hid, htraces, hmap⟩ := hf context
  refine ⟨hnoop, hid, ?_, ?_, Or.inl hmap⟩
  · intro hok
    simp only [Segment.TracesOk, htraces]
    exact hok
  · intro first rest hfirst _
    exact ⟨rest, htraces.trans hfirst⟩

/-- A segment is related to a trace that was not made up by the segment itself. -/
theorem relate (c : Nat) {id : ID} (hvalue : id.value ≠ "") (hcls : id.cls ≠ .NewID) :
    Keeps env w (w.modifyContext c (SpanContext.relate id)) := by
  apply updateContext
  intro context
  refine ⟨rfl, ?_, ?_, ?_, Or.inl rfl⟩
  · simp only [SpanContext.relate, Segment.relate]
    split <;> rfl
  · intro hsegment
    have hmem : ∀ ids : List ID, (∀ x ∈ ids, x.value ≠ "") → ∀ x ∈ ids ++ [id], x.value ≠ "" := by
      intro ids hids x hx
      rcases List.mem_append.mp hx with hx | hx
      · exact hids x hx
      · rw [List.mem_singleton.mp hx]
        exact hvalue
    obtain ⟨hne, hvalues, halone⟩ := hsegment
    simp only [SpanContext.relate, Segment.relate]
    split
    · next made rest hnew =>
      have hsingle := halone ⟨.NewID, made⟩ (by simp [hnew]) rfl
      refine ⟨by simp, hmem _ fun x hx => hvalues x (List.dropLast_subset _ hx), ?_⟩
      intro x hx hx'
      rw [hsingle, List.dropLast_singleton, List.nil_append, List.mem_singleton] at hx
      exact absurd (hx ▸ hx') hcls
    · next hold =>
      refine ⟨by simp, hmem _ hvalues, ?_⟩
      intro x hx hx'
      obtain hx | hx := List.mem_append.mp hx
      · obtain ⟨cls, made⟩ := x
        obtain rfl : cls = .NewID := hx'
        exact absurd (halone _ hx rfl) (hold made [])
      · rw [List.mem_singleton.mp hx] at hx'
        exact absurd hx' hcls
  · intro first rest hfirst hcls
    simp only [SpanContext.relate, Segment.relate]
    split
    · next hnew =>
      rw [hfirst] at hnew
      cases hnew
      exact absurd rfl hcls
    · exact ⟨rest ++ [id], by simp [hfirst]⟩

/-- A context takes over a map that no snapshot owns. -/
theorem withCorrelation (c : Nat) {d : Nat} (hd : d < w.dicts.size)
    (hprivate : ∀ a < w.snapshots.size, d ≠ (w.snapshots.get a).correlation) :
    Keeps env w (w.modifyContext c (SpanContext.withCorrelation d)) := by
  apply updateContext
  intro context
  exact { ContextUpdate.refl w context with correlation := Or.inr ⟨hd, hprivate⟩ }

theorem allocContext (context : SpanContext) (uuids : Nat) (huuids : w.uuids ≤ uuids)
    (hmap : context.correlation = w.dicts.size)
    (hreal : context.noop = false → context.segment.TracesOk ∧
      ∃ k < uuids, context.segment.segmentId.value = env.uuid1 k) :
    Keeps env w { w with
      dicts := w.dicts.alloc []
      contexts := w.contexts.alloc context
      uuids := uuids } := by
  intro hok
  have hold : ∀ x, x < w.contexts.size → (w.contexts.alloc context).get x = w.contexts.get x :=
    fun x hx => w.contexts.get_alloc_of_lt context hx
  have hcases : ∀ x, x < w.contexts.size + 1 → x < w.contexts.size ∨ x = w.contexts.size :=
    fun x hx => Nat.lt_succ_iff_lt_or_eq.mp hx
  have hnew := w.contexts.get_alloc_size context
  refine ⟨⟨hok.vars_lt, hok.view_lt, fun x hx => Nat.lt_succ_of_lt (hok.span_context x hx), ?_, ?_,
    ?_, ?_, ?_, ?_, hok.snapshot_carrier, ?_⟩, ?_⟩
  · intro x hx
    simp only [World.context]
    rcases hcases x hx with hlt | rfl
    · rw [hold x hlt]
      exact hok.traces x hlt
    · rw [hnew]
      exact fun h => (hreal h).1
  · intro x hx
    simp only [World.context]
    rcases hcases x hx with hlt | rfl
    · rw [hold x hlt]
      intro h
      obtain ⟨k, hk, hid⟩ := hok.segment_id x hlt h
      exact ⟨k, hk.trans_le huuids, hid⟩
    · rw [hnew]
      exact fun h => (hreal h).2
  · intro x hx
    simp only [World.context, Store.size_alloc]
    rcases hcases x hx with hlt | rfl
    · rw [hold x hlt]
      exact Nat.lt_succ_of_lt (hok.correlation_lt x hlt)
    · rw [hnew, hmap]
      exact Nat.lt_succ_self _
  · exact fun a ha => Nat.lt_succ_of_lt (hok.carrier_lt a ha)
  · exact fun a ha => Nat.lt_succ_of_lt (hok.snapshot_lt a ha)
  · intro a ha x hx
    simp only [World.context]
    rcases hcases x hx with hlt | rfl
    · rw [hold x hlt]
      exact hok.snapshot_context a ha x hlt
    · rw [hnew, hmap]
      exact (hok.snapshot_lt a ha).ne'
  · intro d
    simp only [Store.get_alloc]
    split
    · exact List.nodup_nil
    · exact hok.keys d
  · refine { Evolves.refl w with
      contexts_le := Nat.le_succ _
      uuids_le := huuids
      context_same := fun x hx => ?_
      trace_kept := fun x hx first rest hfirst _ => ⟨rest, ?_⟩
      snapshot_dict := fun a ha => w.dicts.get_alloc_of_lt [] (hok.snapshot_lt a ha) }
    · simp only [World.context, hold x hx]
      exact ⟨trivial, trivial⟩
    · simp only [World.context, hold x hx]
      exact hfirst

theorem allocSpan (span : Span) (hcontext : span.context < w.contexts.size) :
    Keeps env w { w with spans := w.spans.alloc span } := by
  intro hok
  refine ⟨⟨hok.vars_lt, fun t s hs => Nat.lt_succ_of_lt (hok.view_lt t s hs), ?_, hok.traces,
    hok.segment_id, hok.correlation_lt, hok.carrier_lt, hok.snapshot_lt, hok.snapshot_context,
    hok.snapshot_carrier, hok.keys⟩, ?_⟩
  · intro s hs
    simp only [World.span]
    rcases Nat.lt_succ_iff_lt_or_eq.mp hs with hlt | rfl
    · rw [w.spans.get_alloc_of_lt span hlt]
      exact hok.span_context s hlt
    · rw [w.spans.get_alloc_size]
      exact hcontext
  · refine { Evolves.refl w with
      spans_le := Nat.le_succ _
      span_same := fun s hs => ?_ }
    simp only [World.span, w.spans.get_alloc_of_lt span hs]
    exact ⟨trivial, trivial⟩

theorem allocCarrier (carrier : Carrier) (hd : carrier.correlation < w.dicts.size)
    (hprivate : ∀ a < w.snapshots.size, carrier.correlation ≠ (w.snapshots.get a).correlation) :
    Keeps env w { w with carriers := w.carriers.alloc carrier } := by
  intro hok
  refine ⟨⟨hok.vars_lt, hok.view_lt, hok.span_context, hok.traces, hok.segment_id, hok.correlation_lt, ?_,
    hok.snapshot_lt, hok.snapshot_context, ?_, hok.keys⟩,
    { Evolves.refl w with carriers_le := Nat.le_succ _ }⟩
  · intro a ha
    rcases Nat.lt_succ_iff_lt_or_eq.mp ha with hlt | rfl
    · simp only [w.carriers.get_alloc_of_lt carrier hlt]
      exact hok.carrier_lt a hlt
    · simp only [w.carriers.get_alloc_size]
      exact hd
  · intro a ha b hb
    rcases Nat.lt_succ_iff_lt_or_eq.mp hb with hlt | rfl
    · simp only [w.carriers.get_alloc_of_lt carrier hlt]
      exact hok.snapshot_carrier a ha b hlt
    · simp only [w.carriers.get_alloc_size]
      exact hprivate a ha

theorem allocDict {dict : Correlation} (hkeys : dict.KeysOk) :
    Keeps env w { w with dicts := w.dicts.alloc dict } := by
  intro hok
  refine ⟨⟨hok.vars_lt, hok.view_lt, hok.span_context, hok.traces, hok.segment_id,
    fun c hc => Nat.lt_succ_of_lt (hok.correlation_lt c hc),
    fun a ha => Nat.lt_succ_of_lt (hok.carrier_lt a ha),
    fun a ha => Nat.lt_succ_of_lt (hok.snapshot_lt a ha), hok.snapshot_context,
    hok.snapshot_carrier, ?_⟩,
    { Evolves.refl w with
      snapshot_dict := fun a ha => w.dicts.get_alloc_of_lt dict (hok.snapshot_lt a ha) }⟩
  intro d
  simp only [Store.get_alloc]
  split
  · exact hkeys
  · exact hok.keys d

/-- A snapshot of a map that nobody else refers to. -/
theorem allocSnapshot (snapshot : Snapshot) (hd : snapshot.correlation < w.dicts.size)
    (hcontext : ∀ c < w.contexts.size, (w.context c).correlation ≠ snapshot.correlation)
    (hcarrier : ∀ b < w.carriers.size, (w.carriers.get b).correlation ≠ snapshot.correlation) :
    Keeps env w { w with snapshots := w.snapshots.alloc snapshot } := by
  intro hok
  have hcases : ∀ a, a < w.snapshots.size + 1 → a < w.snapshots.size ∨ a = w.snapshots.size :=
    fun a ha => Nat.lt_succ_iff_lt_or_eq.mp ha
  refine ⟨⟨hok.vars_lt, hok.view_lt, hok.span_context, hok.traces, hok.segment_id, hok.correlation_lt, hok.carrier_lt,
    ?_, ?_, ?_, hok.keys⟩, ?_⟩
  · intro a ha
    rcases hcases a ha with hlt | rfl
    · simp only [w.snapshots.get_alloc_of_lt snapshot hlt]
      exact hok.snapshot_lt a hlt
    · simp only [w.snapshots.get_alloc_size]
      exact hd
  · intro a ha c hc
    rcases hcases a ha with hlt | rfl
    · simp only [w.snapshots.get_alloc_of_lt snapshot hlt]
      exact hok.snapshot_context a hlt c hc
    · simp only [w.snapshots.get_alloc_size]
      exact hcontext c hc
  · intro a ha b hb
    rcases hcases a ha with hlt | rfl
    · simp only [w.snapshots.get_alloc_of_lt snapshot hlt]
      exact hok.snapshot_carrier a hlt b hb
    · simp only [w.snapshots.get_alloc_size]
      exact hcarrier b hb
  · exact { Evolves.refl w with
      snapshots_le := Nat.le_succ _
      snapshot_same := fun a ha => w.snapshots.get_alloc_of_lt snapshot ha }

theorem modifyDict {c : Nat} (hc : c < w.contexts.size) {f : Correlation → Correlation}
    (hf : ∀ dict : Correlation, dict.KeysOk → (f dict).KeysOk) :
    Keeps env w { w with dicts := w.dicts.modify (w.context c).correlation f } := by
  intro hok
  refine ⟨⟨hok.vars_lt, hok.view_lt, hok.span_context, hok.traces, hok.segment_id, hok.correlation_lt, hok.carrier_lt,
    hok.snapshot_lt, hok.snapshot_context, hok.snapshot_carrier, ?_⟩,
    { Evolves.refl w with
      snapshot_dict := fun a ha =>
        w.dicts.get_modify_of_ne f (hok.snapshot_context a ha c hc).symm }⟩
  intro d
  simp only [Store.get_modify]
  split
  · exact hf _ (hok.keys d)
  · exact hok.keys d

/-- New values for what no other part of the invariant looks at. -/
theorem uuid (uuids : Nat) (huuids : w.uuids ≤ uuids) : Keeps env w { w with uuids := uuids } := by
  intro hok
  refine ⟨⟨hok.vars_lt, hok.view_lt, hok.span_context, hok.traces, ?_, hok.correlation_lt, hok.carrier_lt,
    hok.snapshot_lt, hok.snapshot_context, hok.snapshot_carrier, hok.keys⟩,
    { Evolves.refl w with uuids_le := huuids }⟩
  intro c hc hreal
  obtain ⟨k, hk, hid⟩ := hok.segment_id c hc hreal
  exact ⟨k, hk.trans_le huuids, hid⟩

theorem bindList (t : Nat) {spans : List Nat} (hspans : ∀ s ∈ spans, s < w.spans.size) :
    Keeps env w (w.bindList t spans) := by
  intro hok
  have hvars : w.VarsOk := hok.vars_lt
  refine ⟨⟨hvars.bindList t spans, ?_, hok.span_context, hok.traces, hok.segment_id, hok.correlation_lt,
    hok.carrier_lt, hok.snapshot_lt, hok.snapshot_context, hok.snapshot_carrier, hok.keys⟩,
    { Evolves.refl w with }⟩
  intro x s hs
  rw [view_bindList hvars] at hs
  split at hs
  · exact hspans s hs
  · exact hok.view_lt x s hs

/-- A new task sees what its creator sees, or nothing. -/
theorem vars (t : Nat) (list : Option Nat) (hlist : list = none ∨ ∃ t', list = w.vars t') :
    Keeps env w { w with vars := Function.update w.vars t list } := by
  intro hok
  have hview : ∀ x, ({ w with vars := Function.update w.vars t list } : World).view x = [] ∨
      ∃ t', ({ w with vars := Function.update w.vars t list } : World).view x = w.view t' := by
    intro x
    by_cases hx : x = t
    · rcases hlist with rfl | ⟨t', rfl⟩
      · left
        simp [World.view, hx]
      · right
        exact ⟨t', by simp [World.view, hx]⟩
    · right
      exact ⟨x, by simp [World.view, hx]⟩
  refine ⟨⟨?_, ?_, hok.span_context, hok.traces, hok.segment_id, hok.correlation_lt, hok.carrier_lt,
    hok.snapshot_lt, hok.snapshot_context, hok.snapshot_carrier, hok.keys⟩,
    { Evolves.refl w with }⟩
  · intro x l hl
    simp only [Function.update_apply] at hl
    split at hl
    · rcases hlist with rfl | ⟨t', rfl⟩
      · cases hl
      · exact hok.vars_lt t' l hl
    · exact hok.vars_lt x l hl
  · intro x s hs
    rcases hview x with hnil | ⟨t', ht'⟩
    · rw [hnil] at hs
      cases hs
    · rw [ht'] at hs
      exact hok.view_lt t' s hs

end Keeps

section Calls

theorem keeps_spansGet (task : Nat) : Keeps env w (w.spansGet task) := by
  unfold World.spansGet
  split
  · exact .refl w
  · exact .bindList task (by simp)

theorem keeps_new : Keeps env w (SpanContext.new env w).1 := by
  refine .allocContext _ (w.uuids + 2) (by omega) rfl fun _ =>
    ⟨⟨by simp, ?_, ?_⟩, w.uuids, by omega, rfl⟩
  · intro id hid
    rw [List.mem_singleton.mp hid]
    exact env.uuid1_ne_empty _
  · intro id hid _
    rw [List.mem_singleton.mp hid]

theorem keeps_newNoop : Keeps env w (SpanContext.newNoop w).1 :=
  .allocContext _ w.uuids (le_refl _) rfl fun h => by cases h

theorem keeps_getContext (task : Nat) (sampled : Bool) :
    Keeps env w (getContext env task sampled w).1 := by
  unfold getContext
  dsimp only
  split
  · exact keeps_spansGet task
  · split
    · exact (keeps_spansGet task).trans keeps_new
    · exact (keeps_spansGet task).trans keeps_newNoop

theorem keeps_idOf (env : Env) (w : World) (rawId : String) :
    Keeps env w (Span.idOf env rawId w).1 ∧ (Span.idOf env rawId w).2.value ≠ "" ∧
      (Span.idOf env rawId w).2.cls = .ID := by
  unfold Span.idOf
  split
  · exact ⟨.uuid _ (Nat.le_succ _), env.uuid1_ne_empty _, rfl⟩
  · next hne => exact ⟨.refl w, hne, rfl⟩

theorem idOf_stores (env : Env) (rawId : String) (w : World) :
    (Span.idOf env rawId w).1.dicts = w.dicts ∧
      (Span.idOf env rawId w).1.snapshots = w.snapshots := by
  unfold Span.idOf
  split <;> exact ⟨rfl, rfl⟩

/-- A span takes up a carrier whose map no snapshot owns. -/
theorem keeps_extractReal (span : Nat) (carrier : Carrier)
    (hd : carrier.correlation < w.dicts.size)
    (hprivate : ∀ a < w.snapshots.size, carrier.correlation ≠ (w.snapshots.get a).correlation) :
    Keeps env w (Span.extractReal env span carrier w).1 := by
  obtain ⟨hid, hvalue, hcls⟩ := keeps_idOf env w carrier.traceId
  obtain ⟨hdicts, hsnapshots⟩ := idOf_stores env carrier.traceId w
  rw [← hdicts] at hd
  rw [← hsnapshots] at hprivate
  have hbase : ∀ c c', Keeps env w (((Span.idOf env carrier.traceId w).1.modifyContext c
      (SpanContext.relate (Span.idOf env carrier.traceId w).2)).modifyContext c'
      (SpanContext.withCorrelation carrier.correlation)) := fun c c' =>
    (hid.trans (.relate c hvalue (by simp [hcls]))).trans (.withCorrelation c' hd hprivate)
  have hadd : ∀ ref (w' : World), Keeps env w' (w'.modifySpan span (Span.addRef ref)) :=
    fun ref w' => .modifySpan span fun _ => ⟨rfl, rfl⟩
  unfold Span.extractReal
  dsimp only
  split
  · exact hbase _ _
  · exact hbase _ _
  · split
    · exact hbase _ _
    · split
      · exact hbase _ _
      · exact (hbase _ _).trans (hadd _ _)

theorem keeps_nextSid (c : Nat) : Keeps env w (w.modifyContext c SpanContext.nextSid) :=
  .modifyContext c fun _ => ⟨rfl, rfl, rfl, rfl⟩

theorem keeps_newSpan {self : Nat} (hself : self < w.contexts.size) {parent : Option Nat}
    (hparent : ∀ p ∈ parent, p < w.spans.size) (cls : SpanClass) (op : String)
    (peer : Option String) (component : Option Component) :
    Keeps env w (SpanContext.newSpan env self parent cls op peer component w).1 := by
  cases hfinished : SpanContext.isFinished parent w with
  | false =>
      rw [newSpan_of_not_finished env w self parent cls op peer component hfinished]
      exact (keeps_nextSid self).trans (.allocSpan _ hself)
  | true =>
      cases parent with
      | none => cases hfinished
      | some parent =>
          have hdepth : (w.span parent).depth = 0 := by
            simpa [SpanContext.isFinished] using hfinished
          rw [newSpan_of_finished env w self cls op peer component hdepth]
          dsimp only
          have hspan : Keeps env w (Span.alloc
              (Span.create cls w.contexts.size 0 (-1) op peer component)
              ((SpanContext.new env w).1.modifyContext w.contexts.size SpanContext.nextSid)).1 :=
            (keeps_new.trans (keeps_nextSid _)).trans (.allocSpan _ (Nat.lt_succ_self _))
          refine hspan.andThen fun _ hok hevolves => keeps_extractReal _ _ ?_ ?_
          · have hlt := (hparent parent rfl).trans_le hevolves.spans_le
            exact hok.correlation_lt _ (hok.span_context parent hlt)
          · intro a ha
            have hlt := (hparent parent rfl).trans_le hevolves.spans_le
            exact hok.snapshot_context a ha _ (hok.span_context parent hlt)

theorem keeps_spanNewNoop {c : Nat} (hc : c < w.contexts.size) :
    Keeps env w (Span.newNoop c w).1 := .allocSpan _ hc

theorem keeps_ignored :
    Keeps env w (Span.newNoop w.contexts.size (SpanContext.newNoop w).1).1 :=
  keeps_newNoop.trans (keeps_spanNewNoop (Nat.lt_succ_self _))

theorem WorldOk.top_lt (hok : WorldOk env w) {task : Nat} :
    ∀ p ∈ (w.view task).getLast?, p < w.spans.size :=
  fun p hp => hok.view_lt task p (List.mem_of_getLast? hp)

theorem keeps_newSpan_top (task : Nat) {self : Nat} (hself : self < w.contexts.size)
    (cls : SpanClass) (op : String) (peer : Option String) (component : Option Component) :
    Keeps env w (SpanContext.newSpan env self (w.view task).getLast? cls op peer component
      (w.spansGet task)).1 :=
  (keeps_spansGet task).andThen fun hok _ hevolves =>
    keeps_newSpan (hself.trans_le hevolves.contexts_le)
      (fun p hp => (hok.top_lt p hp).trans_le hevolves.spans_le) cls op peer component

theorem keeps_newLocalSpan (task : Nat) {self : Nat} (hself : self < w.contexts.size)
    (answers : Answers) (op : String) :
    Keeps env w (SpanContext.newLocalSpan env task self answers op w).1 :=
  newLocalSpan_rule env task self answers op (keeps_spanNewNoop hself) (Keeps.refl w) keeps_ignored
    (keeps_newSpan_top task hself .Span op none none)

theorem keeps_newEntrySpan (task : Nat) {self : Nat} (hself : self < w.contexts.size)
    (answers : Answers) (op : String) {carrier : Option Nat}
    (hcarrier : ∀ a ∈ carrier, a < w.carriers.size) (inherit : Option Component) :
    Keeps env w (SpanContext.newEntrySpan env task self answers op carrier inherit w).1 := by
  have hnew : Keeps env w _ := keeps_newSpan_top task hself .EntrySpan op none none
  refine newEntrySpan_rule env task self answers op carrier inherit (keeps_spanNewNoop hself)
    (Keeps.refl w) keeps_ignored
    (fun _ => (keeps_spansGet task).trans (.modifySpan _ fun _ => ⟨rfl, rfl⟩)) hnew ?_
  intro a span w' ha heq _
  rw [heq] at hnew
  refine hnew.andThen fun _ hok' hevolves => keeps_extractReal _ _ ?_ ?_
  · exact hok'.carrier_lt a ((hcarrier a ha).trans_le hevolves.carriers_le)
  · exact fun b hb => hok'.snapshot_carrier b hb a ((hcarrier a ha).trans_le hevolves.carriers_le)

theorem keeps_newExitSpan (task : Nat) {self : Nat} (hself : self < w.contexts.size)
    (answers : Answers) (op : String) (peer : Option String) (component inherit : Option Component) :
    Keeps env w (SpanContext.newExitSpan env task self answers op peer component inherit w).1 :=
  newExitSpan_rule env task self answers op peer component inherit (keeps_spanNewNoop hself)
    (Keeps.refl w) keeps_ignored
    (fun _ => (keeps_spansGet task).trans (.modifySpan _ fun _ => ⟨rfl, rfl⟩))
    (keeps_newSpan_top task hself .ExitSpan op peer component)
    (fun _ _ _ hkeeps => hkeeps.trans (.modifySpan _ fun _ => ⟨rfl, rfl⟩))

theorem keeps_call (task : Nat) {self : Nat} (hself : self < w.contexts.size) (answers : Answers)
    {call : Call} (hcarrier : ∀ a ∈ call.carrier, a < w.carriers.size) :
    Keeps env w (call.run env task self answers w).1 := by
  cases call with
  | newLocalSpan op => exact keeps_newLocalSpan task hself answers op
  | newEntrySpan op carrier inherit => exact keeps_newEntrySpan task hself answers op hcarrier inherit
  | newExitSpan op peer component inherit =>
      exact keeps_newExitSpan task hself answers op peer component inherit

theorem keeps_contextStart (task c : Nat) {s : Nat} (hs : s < w.spans.size) :
    Keeps env w (SpanContext.start task c s w) := by
  obtain ⟨primary, heq⟩ := SpanContext.start_eq task c s w
  rw [heq]
  have hcontext : Keeps env w (w.modifyContext c fun context =>
      context.countUp.withPrimary primary) := .modifyContext c fun _ => ⟨rfl, rfl, rfl, rfl⟩
  refine hcontext.andThen fun hok _ _ => .bindList task fun x hx => ?_
  rw [pushed] at hx
  split at hx
  · exact hok.view_lt task x hx
  · rcases List.mem_append.mp hx with hx | hx
    · exact hok.view_lt task x hx
    · rw [List.mem_singleton.mp hx]
      exact hs

theorem keeps_start (task : Nat) {s : Nat} (hs : s < w.spans.size) :
    Keeps env w (Span.start task s w) := by
  have hentered : Keeps env w (w.modifySpan s Span.entered) := .modifySpan s fun _ => ⟨rfl, rfl⟩
  have hentry : ∀ w' : World, Keeps env w' (if (w'.span s).cls = .EntrySpan then
      w'.modifySpan s Span.restarted else w') := by
    intro w'
    split
    · exact .modifySpan s fun _ => ⟨rfl, rfl⟩
    · exact .refl w'
  unfold Span.start
  dsimp only
  refine Keeps.trans ?_ (hentry _)
  split
  · have hstarted : ∀ now, Keeps env (w.modifySpan s Span.entered)
        ((w.modifySpan s Span.entered).modifySpan s (Span.startedAt now)) :=
      fun now => .modifySpan s fun _ => ⟨rfl, rfl⟩
    exact (hentered.trans (hstarted _)).trans (keeps_contextStart task _ hs)
  · exact hentered

theorem keeps_contextStop (task c s : Nat) (queueFull : Bool) :
    Keeps env w (SpanContext.stop task c s queueFull w).1 := by
  have herase : ∀ w' : World, w'.view task = w.view task → w'.spans.size = w.spans.size →
      WorldOk env w → ∀ x ∈ (w.view task).erase s, x < w'.spans.size := by
    intro w' _ hsize hok x hx
    rw [hsize]
    exact hok.view_lt task x (List.mem_of_mem_erase hx)
  cases hnoop : (w.context c).noop with
  | true =>
      rw [SpanContext.stop_of_noop task c s queueFull w hnoop]
      have hdown : Keeps env w (w.modifyContext c SpanContext.countDown) :=
        .modifyContext c fun _ => ⟨rfl, rfl, rfl, rfl⟩
      exact hdown.andThen fun hok _ _ => .bindList task (herase _ rfl rfl hok)
  | false =>
      have hleft : Keeps env w (SpanContext.left task c s w) := by
        rw [SpanContext.left_eq]
        have hended : Keeps env w (w.modifySpan s (Span.endedAt w.now)) :=
          .modifySpan s fun _ => ⟨rfl, rfl⟩
        have hcontext : Keeps env w ((w.modifySpan s (Span.endedAt w.now)).modifyContext c
            fun context => (context.archiveSpan s).countDown) :=
          hended.trans (.modifyContext c fun _ => ⟨rfl, rfl, rfl, rfl⟩)
        exact hcontext.andThen fun hok _ _ => .bindList task (herase _ rfl rfl hok)
      rw [SpanContext.stop_of_real task c s queueFull w hnoop]
      dsimp only
      split
      · have hlimited : Keeps env w ((SpanContext.left task c s w).modifyContext c
            (SpanContext.sizeLimited queueFull)) :=
          hleft.trans (.modifyContext c fun _ => ⟨rfl, rfl, rfl, rfl⟩)
        exact hlimited.trans fun hok => ⟨{ hok with }, { Evolves.refl _ with }⟩
      · exact hleft

theorem keeps_stop (task s : Nat) (queueFull : Bool) :
    Keeps env w (Span.stop task s queueFull w).1 := by
  have hleft : Keeps env w (w.modifySpan s Span.left) := .modifySpan s fun _ => ⟨rfl, rfl⟩
  unfold Span.stop
  dsimp only
  split
  · exact hleft.trans (keeps_contextStop task _ s queueFull)
  · exact hleft

theorem keeps_edit (s : Nat) (change : Edit) : Keeps env w (change.run env s w).1 := by
  cases change with
  | op value => exact .modifySpan s fun _ => ⟨rfl, rfl⟩
  | peer value => exact .modifySpan s fun _ => ⟨rfl, rfl⟩
  | component value => exact .modifySpan s fun _ => ⟨rfl, rfl⟩
  | layer value => exact .modifySpan s fun _ => ⟨rfl, rfl⟩
  | tag value =>
      simp only [Edit.run, Span.tag]
      split
      · exact .refl w
      · exact .modifySpan s fun _ => ⟨rfl, rfl⟩
  | log text => exact .modifySpan s fun _ => ⟨rfl, rfl⟩

theorem keeps_inject {s : Nat} (hs : s < w.spans.size) : Keeps env w (Span.inject env s w).1 := by
  intro hok
  revert hok
  unfold Span.inject
  split
  · intro hok
    have hc := hok.span_context s hs
    exact Keeps.allocCarrier _ (hok.correlation_lt _ hc)
      (fun a ha => hok.snapshot_context a ha _ hc) hok
  · have hdict : Keeps env w { w with dicts := w.dicts.alloc [] } := .allocDict List.nodup_nil
    exact hdict.andThen fun hok _ _ => .allocCarrier _ (Nat.lt_succ_self _)
      fun a ha => (hok.snapshot_lt a ha).ne'
  · exact Keeps.refl w

theorem keeps_receive (sw8 correlation : String) :
    Keeps env w (receiveCarrier env sw8 correlation w).1 := by
  have hdict : Keeps env w { w with dicts := w.dicts.alloc (Correlation.setVal env [] correlation).1 } :=
    .allocDict (Correlation.KeysOk.nil.setVal env correlation)
  unfold receiveCarrier
  dsimp only
  split
  · exact hdict.andThen fun hok _ _ => .allocCarrier _ (Nat.lt_succ_self _)
      fun a ha => (hok.snapshot_lt a ha).ne'
  · refine hdict.andThen fun hok _ _ => .allocCarrier _ ?_ fun a ha => ?_
    · rw [Carrier.setVal_correlation]
      exact Nat.lt_succ_self _
    · rw [Carrier.setVal_correlation]
      exact (hok.snapshot_lt a ha).ne'

theorem keeps_extract (s : Nat) {a : Nat} (ha : a < w.carriers.size) :
    Keeps env w (Span.extract env s (w.carriers.get a) w).1 := by
  unfold Span.extract
  split
  · exact .refl w
  · exact fun hok => keeps_extractReal s _ (hok.carrier_lt a ha)
      (fun b hb => hok.snapshot_carrier b hb a ha) hok

theorem keeps_putCorrelation {c : Nat} (hc : c < w.contexts.size) (key value : Option String) :
    Keeps env w (SpanContext.putCorrelation env c key value w) :=
  .modifyDict hc fun _ hkeys => hkeys.putDict env key value

theorem keeps_newSnapshot (snapshot : Snapshot) {dict : Correlation} (hkeys : dict.KeysOk) :
    Keeps env w (SpanContext.newSnapshot snapshot dict w).1 := by
  have hdict : Keeps env w { w with dicts := w.dicts.alloc dict } := .allocDict hkeys
  exact hdict.andThen fun hok _ _ => .allocSnapshot { snapshot with correlation := w.dicts.size }
    (Nat.lt_succ_self _) (fun c hc => (hok.correlation_lt c hc).ne)
    fun b hb => (hok.carrier_lt b hb).ne

theorem keeps_capture (task self : Nat) : Keeps env w (SpanContext.capture task self w).1 := by
  unfold SpanContext.capture
  dsimp only
  split
  · exact fun hok => keeps_newSnapshot _ (hok.keys _) hok
  · split
    · exact keeps_spansGet task
    · exact (keeps_spansGet task).andThen fun hok _ _ => keeps_newSnapshot _ (hok.keys _)

theorem keeps_isFromCurrent (task self : Nat) (snapshot : Snapshot) :
    Keeps env w (SpanContext.isFromCurrent task self snapshot w).1 := by
  have hcapture : Keeps env w (SpanContext.capture task self w).1 := keeps_capture task self
  unfold SpanContext.isFromCurrent
  split
  · exact .refl w
  · split <;> next heq =>
      rw [heq] at hcapture
      exact hcapture

theorem keeps_updateCorrelation {c : Nat} (hc : c < w.contexts.size) (snapshot : Snapshot) :
    Keeps env w (SpanContext.updateCorrelation c snapshot w) :=
  .modifyDict hc fun _ hkeys => hkeys.update _

theorem keeps_continued (task : Nat) {self : Nat} (hself : self < w.contexts.size) (snapshot : Nat) :
    Keeps env w (SpanContext.continued env task self snapshot w).1 := by
  unfold SpanContext.continued
  dsimp only
  split
  · exact keeps_updateCorrelation hself _
  have hcurrent : Keeps env w _ := keeps_isFromCurrent task self (w.snapshots.get snapshot)
  split
  · next heq =>
    rw [heq] at hcurrent
    exact hcurrent
  · next heq =>
    rw [heq] at hcurrent
    exact hcurrent
  · next w' heq =>
    rw [heq] at hcurrent
    split
    · split
      · exact hcurrent
      · next ref _ =>
        split
        · exact hcurrent
        · next span _ =>
          have href : Keeps env w' (w'.modifySpan span (Span.addRef ref)) :=
            .modifySpan span fun _ => ⟨rfl, rfl⟩
          obtain ⟨hid, hvalue, hcls⟩ :=
            keeps_idOf env (w'.modifySpan span (Span.addRef ref)) ref.traceId
          have hrelated := ((hcurrent.trans href).trans hid).trans
            (.relate self hvalue (by simp [hcls]))
          exact hrelated.andThen fun _ _ hevolves =>
            keeps_updateCorrelation (hself.trans_le hevolves.contexts_le) _
    · exact hcurrent

theorem keeps_action {action : ApiAction} (henabled : action.Enabled w) :
    Keeps env w (action.run env w) := by
  cases action with
  | spawn creator child => exact .vars child _ (.inr ⟨creator, rfl⟩)
  | thread child => exact .vars child _ (.inl rfl)
  | getContext task sampled => exact keeps_getContext task sampled
  | newSpan task self answers call => exact keeps_call task henabled.1 answers henabled.2
  | start task span => exact keeps_start task henabled
  | stop task span queueFull => exact keeps_stop task span queueFull
  | raised span traceback => exact .modifySpan span fun _ => ⟨rfl, rfl⟩
  | edit span change => exact keeps_edit span change
  | inject span => exact keeps_inject henabled
  | receive sw8 correlation => exact keeps_receive sw8 correlation
  | extract span carrier => exact keeps_extract span henabled.2
  | putCorrelation self key value => exact keeps_putCorrelation henabled key value
  | capture task self => exact keeps_capture task self
  | continued task self snapshot => exact keeps_continued task henabled.1 snapshot
  | wait seconds => exact fun hok => ⟨{ hok with }, { Evolves.refl w with }⟩

end Calls

theorem worldOk_init (env : Env) : WorldOk env .init where
  vars_lt _ _ h := by cases h
  view_lt _ _ h := by cases h
  span_context _ h := by cases h
  traces _ h := by cases h
  segment_id _ h := by cases h
  correlation_lt _ h := by cases h
  carrier_lt _ h := by cases h
  snapshot_lt _ h := by cases h
  snapshot_context _ h := by cases h
  snapshot_carrier _ h := by cases h
  keys _ := List.nodup_nil

/-- A run keeps a well-formed world well formed, and what exists stays what it is. -/
theorem keeps_run {actions : List ApiAction} (hrun : Run (ApiStep env) w actions w') :
    Keeps env w w' := by
  induction hrun with
  | nil => exact .refl _
  | snoc _ hstep ih =>
      obtain ⟨henabled, rfl⟩ := hstep
      exact ih.trans (keeps_action henabled)

theorem Reachable.worldOk (hreach : Reachable env w) : WorldOk env w := by
  obtain ⟨actions, hrun⟩ := hreach
  exact (keeps_run hrun (worldOk_init env)).1

end SkyWalking
