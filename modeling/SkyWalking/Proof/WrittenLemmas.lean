import SkyWalking.Proof.SamplingLemmas
import SkyWalking.Proof.Threads
import SkyWalking.Trace.Fleet

/-!
# What a call writes down

References, carriers, snapshots and new segment ids: for each operation of the trace code, where a name may
come from that is found in them afterwards.
-/

namespace SkyWalking

open World

variable {env : Env} {T T' : Nat → Prop} {Q Q' P P' : SpanName → Prop} {w w' w'' : World}

/-- The id that a segment generated itself is the only one in it. -/
def World.Alone (w : World) : Prop :=
  ∀ c < w.contexts.size, ∀ id ∈ (w.context c).segment.relatedTraces, id.cls = .NewID →
    (w.context c).segment.relatedTraces = [id]

/-- New references are in spans that `T` allows and bear names that `Q` allows, new carriers and snapshots
bear names that `P` allows. -/
structure Written (env : Env) (T : Nat → Prop) (Q P : SpanName → Prop) (w w' : World) : Prop where
  refs : ∀ s < w'.spans.size, ∀ ref ∈ (w'.span s).refs,
    (s < w.spans.size ∧ ref ∈ (w.span s).refs) ∨ (T s ∧ Q ref.name ∧ w'.Lists s ref.traceId)
  carriers : ∀ a < w'.carriers.size, ∀ name, (w'.carriers.get a).Gives name →
    (a < w.carriers.size ∧ (w.carriers.get a).Gives name) ∨ P name
  snapshots : ∀ a < w'.snapshots.size, ∀ name, (w'.snapshots.get a).Gives env name →
    (a < w.snapshots.size ∧ (w.snapshots.get a).Gives env name) ∨ P name
  apart : ∀ c' < w'.contexts.size, w.contexts.size ≤ c' → (w'.context c').noop = false →
    ∀ c < c', (w'.context c).noop = false →
      (w'.context c).segment.segmentId.value ≠ (w'.context c').segment.segmentId.value
  kept : ∀ c < w.contexts.size, ∀ id ∈ (w.context c).segment.relatedTraces, id.cls ≠ .NewID →
    id ∈ (w'.context c).segment.relatedTraces
  generated : ∀ c < w'.contexts.size, ∀ id ∈ (w'.context c).segment.relatedTraces, id.cls = .NewID →
    (c < w.contexts.size ∧ id ∈ (w.context c).segment.relatedTraces) ∨
      ∃ k < w'.uuids, id.value = env.uuid1 k

/-- A step of the trace code in a process that is in order. -/
def Writes (env : Env) (T : Nat → Prop) (Q P : SpanName → Prop) (w w' : World) : Prop :=
  WorldOk env w → w.Alone → WorldOk env w' ∧ w'.Alone ∧ Evolves w w' ∧ Written env T Q P w w'

theorem World.Lists.evolves {s : Nat} {traceId : String} (hok : WorldOk env w) (hs : s < w.spans.size)
    (hevolves : Evolves w w') (hwritten : Written env T Q P w w') (h : w.Lists s traceId) :
    w'.Lists s traceId := by
  intro hreal
  obtain ⟨hcls, hcontext⟩ := hevolves.span_same s hs
  rw [hcls] at hreal
  obtain ⟨id, hid, hnew, hvalue⟩ := h hreal
  rw [hcontext]
  exact ⟨id, hwritten.kept _ (hok.span_context s hs) id hid hnew, hnew, hvalue⟩

namespace Written

theorem mono (h : Written env T Q P w w') (hT : ∀ s, T s → T' s) (hQ : ∀ name, Q name → Q' name)
    (hP : ∀ name, P name → P' name) : Written env T' Q' P' w w' where
  refs s hs ref href := by
    obtain hold | ⟨htaker, hname, hlists⟩ := h.refs s hs ref href
    · exact .inl hold
    · exact .inr ⟨hT s htaker, hQ _ hname, hlists⟩
  carriers a ha name hgives := (h.carriers a ha name hgives).imp_right (hP name)
  snapshots a ha name hgives := (h.snapshots a ha name hgives).imp_right (hP name)
  apart := h.apart
  kept := h.kept
  generated := h.generated

theorem trans (hok : WorldOk env w') (hevolves : Evolves w w') (hevolves' : Evolves w' w'') (h : Written env T Q P w w')
    (h' : Written env T Q P w' w'') : Written env T Q P w w'' where
  refs s hs ref href := by
    obtain ⟨hlt, hold⟩ | hnew := h'.refs s hs ref href
    · obtain hold | ⟨htaker, hname, hlists⟩ := h.refs s hlt ref hold
      · exact .inl hold
      · exact .inr ⟨htaker, hname, hlists.evolves hok hlt hevolves' h'⟩
    · exact .inr hnew
  carriers a ha name hgives := by
    obtain ⟨hlt, hold⟩ | hnew := h'.carriers a ha name hgives
    · exact h.carriers a hlt name hold
    · exact .inr hnew
  snapshots a ha name hgives := by
    obtain ⟨hlt, hold⟩ | hnew := h'.snapshots a ha name hgives
    · exact h.snapshots a hlt name hold
    · exact .inr hnew
  apart c' hc' hge hreal c hc hreal' := by
    by_cases hlt : c' < w'.contexts.size
    · obtain ⟨hnoop, hid⟩ := hevolves'.context_same c' hlt
      obtain ⟨hnoop', hid'⟩ := hevolves'.context_same c (hc.trans hlt)
      rw [hid, hid']
      exact h.apart c' hlt hge (hnoop ▸ hreal) c hc (hnoop' ▸ hreal')
    · exact h'.apart c' hc' (not_lt.mp hlt) hreal c hc hreal'
  kept c hc id hid hcls :=
    h'.kept c (hc.trans_le hevolves.contexts_le) id (h.kept c hc id hid hcls) hcls
  generated c hc id hid hcls := by
    obtain ⟨hlt, hold⟩ | hnew := h'.generated c hc id hid hcls
    · obtain hold | ⟨k, hk, hvalue⟩ := h.generated c hlt id hold hcls
      · exact .inl hold
      · exact .inr ⟨k, hk.trans_le hevolves'.uuids_le, hvalue⟩
    · exact .inr hnew

/-- Nothing is written down. -/
theorem of_same (hsize : w'.spans.size = w.spans.size) (hrefs : ∀ s, (w'.span s).refs = (w.span s).refs)
    (hcarriers : w'.carriers = w.carriers) (hsnapshots : w'.snapshots = w.snapshots)
    (hcontexts : w'.contexts.size = w.contexts.size)
    (htraces : ∀ c, (w'.context c).segment.relatedTraces = (w.context c).segment.relatedTraces) :
    Written env T Q P w w' where
  refs s hs ref href := .inl ⟨hsize ▸ hs, hrefs s ▸ href⟩
  carriers a ha name hgives := by
    rw [hcarriers] at ha hgives
    exact .inl ⟨ha, hgives⟩
  snapshots a ha name hgives := by
    rw [hsnapshots] at ha hgives
    exact .inl ⟨ha, hgives⟩
  apart c' hc' hge := by
    rw [hcontexts] at hc'
    exact absurd hc' (not_lt.mpr hge)
  kept c _ id hid _ := by
    rw [htraces]
    exact hid
  generated c hc id hid _ := by
    rw [hcontexts] at hc
    rw [htraces] at hid
    exact .inl ⟨hc, hid⟩

theorem refl (env : Env) (T : Nat → Prop) (Q P : SpanName → Prop) (w : World) : Written env T Q P w w :=
  .of_same rfl (fun _ => rfl) rfl rfl rfl fun _ => rfl

end Written

theorem SegmentRef.of_ofCarrier {carrier : Carrier} {refType : String} {ref : SegmentRef}
    (h : SegmentRef.ofCarrier carrier refType = .ok ref) :
    ∃ spanId, carrier.spanId.toInt = .ok spanId ∧ ref = carrier.toRef refType spanId := by
  cases hnumber : carrier.spanId.toInt with
  | error error =>
      rw [SegmentRef.ofCarrier, hnumber] at h
      cases h
  | ok spanId =>
      rw [SegmentRef.ofCarrier_eq hnumber] at h
      exact ⟨spanId, rfl, (Except.ok.inj h).symm⟩

theorem Segment.mem_relate (segment : Segment) (id : ID) : id ∈ (segment.relate id).relatedTraces := by
  unfold Segment.relate
  split <;> exact List.mem_append_right _ (List.mem_singleton_self id)

namespace Writes

theorem refl (w : World) : Writes env T Q P w w := fun hok halone =>
  ⟨hok, halone, .refl w, .refl env T Q P w⟩

theorem trans (h : Writes env T Q P w w') (h' : Writes env T Q P w' w'') : Writes env T Q P w w'' := by
  intro hok halone
  obtain ⟨hok', halone', hevolves, hwritten⟩ := h hok halone
  obtain ⟨hok'', halone'', hevolves', hwritten'⟩ := h' hok' halone'
  exact ⟨hok'', halone'', hevolves.trans hevolves', hwritten.trans hok' hevolves hevolves' hwritten'⟩

theorem andThen (h : Writes env T Q P w w')
    (h' : WorldOk env w → WorldOk env w' → Evolves w w' → Writes env T Q P w' w'') :
    Writes env T Q P w w'' := by
  intro hok halone
  obtain ⟨hok', -, hevolves, -⟩ := h hok halone
  exact trans h (h' hok hok' hevolves) hok halone

theorem mono (h : Writes env T Q P w w') (hT : ∀ s, T s → T' s) (hQ : ∀ name, Q name → Q' name)
    (hP : ∀ name, P name → P' name) : Writes env T' Q' P' w w' := by
  intro hok halone
  obtain ⟨hok', halone', hevolves, hwritten⟩ := h hok halone
  exact ⟨hok', halone', hevolves, hwritten.mono hT hQ hP⟩

theorem same (hkeeps : Keeps env w w') (hsize : w'.spans.size = w.spans.size)
    (hrefs : ∀ s, (w'.span s).refs = (w.span s).refs) (hcarriers : w'.carriers = w.carriers)
    (hsnapshots : w'.snapshots = w.snapshots) (hcontexts : w'.contexts.size = w.contexts.size)
    (htraces : ∀ c, (w'.context c).segment.relatedTraces = (w.context c).segment.relatedTraces) :
    Writes env T Q P w w' := by
  intro hok halone
  obtain ⟨hok', hevolves⟩ := hkeeps hok
  refine ⟨hok', fun c hc id hid hcls => ?_, hevolves,
    .of_same hsize hrefs hcarriers hsnapshots hcontexts htraces⟩
  rw [htraces] at hid ⊢
  exact halone c (hcontexts ▸ hc) id hid hcls

/-- Steps that leave what carriers and snapshots are made of as it is. -/
theorem steady (hkeeps : Keeps env w w') (hsteady : Steady w w') (hsize : w'.spans.size = w.spans.size)
    (hcarriers : w'.carriers = w.carriers) (hcontexts : w'.contexts.size = w.contexts.size) :
    Writes env T Q P w w' :=
  same hkeeps hsize (fun s => (hsteady.span s).1) hcarriers hsteady.snapshots hcontexts
    fun c => (hsteady.context c).2.2.1

theorem modifySpan (s : Nat) {f : Span → Span} (hf : ∀ span, (f span).cls = span.cls ∧
    (f span).context = span.context ∧ (f span).refs = span.refs) :
    Writes env T Q P w (w.modifySpan s f) :=
  steady (.modifySpan s fun span => ⟨(hf span).1, (hf span).2.1⟩)
    (.modifySpan s fun span => ⟨(hf span).2.2, (hf span).2.1⟩) rfl rfl rfl

theorem spansGet (task : Nat) : Writes env T Q P w (w.spansGet task) :=
  same (keeps_spansGet task) (congrArg Store.size (spansGet_spans w task))
    (fun s => congrArg Span.refs (spansGet_span w task s)) (spansGet_carriers w task)
    (spansGet_snapshots w task) (congrArg Store.size (spansGet_contexts w task)) fun c => by
      simp only [World.context, spansGet_contexts]

theorem allocSpan {span : Span} (hcontext : span.context < w.contexts.size) (hrefs : span.refs = []) :
    Writes env T Q P w { w with spans := w.spans.alloc span } := by
  intro hok halone
  obtain ⟨hok', hevolves⟩ := Keeps.allocSpan span hcontext hok
  refine ⟨hok', halone, hevolves, ?_⟩
  refine { Written.refl env T Q P w with
    refs := fun s hs ref href => ?_ }
  obtain hlt | rfl := Nat.lt_succ_iff_lt_or_eq.mp hs
  · rw [show ({ w with spans := w.spans.alloc span } : World).span s = w.span s from
      w.spans.get_alloc_of_lt span hlt] at href
    exact .inl ⟨hlt, href⟩
  · rw [show ({ w with spans := w.spans.alloc span } : World).span w.spans.size = span from
      w.spans.get_alloc_size span, hrefs] at href
    cases href

theorem addRef {s : Nat} {ref : SegmentRef} (hT : T s) (hQ : Q ref.name) (hlists : w.Lists s ref.traceId) :
    Writes env T Q P w (w.modifySpan s (Span.addRef ref)) := by
  intro hok halone
  have hkeeps : Keeps env w (w.modifySpan s (Span.addRef ref)) := Keeps.modifySpan s fun _ => ⟨rfl, rfl⟩
  obtain ⟨hok', hevolves⟩ := hkeeps hok
  have hsame : ∀ x, ((w.modifySpan s (Span.addRef ref)).span x).cls = (w.span x).cls ∧
      ((w.modifySpan s (Span.addRef ref)).span x).context = (w.span x).context := by
    intro x
    simp only [World.span, World.modifySpan, Store.get_modify]
    split <;> exact ⟨rfl, rfl⟩
  refine ⟨hok', halone, hevolves, ?_⟩
  refine { Written.refl env T Q P w with
    refs := fun x hx other hother => ?_ }
  simp only [World.span, World.modifySpan, Store.get_modify] at hother
  split at hother
  · next heq =>
    subst heq
    obtain hold | hnew := List.mem_append.mp hother
    · exact .inl ⟨hx, hold⟩
    · obtain rfl := List.mem_singleton.mp hnew
      refine .inr ⟨hT, hQ, fun hreal => ?_⟩
      rw [(hsame x).1] at hreal
      rw [(hsame x).2]
      exact hlists hreal
  · exact .inl ⟨hx, hother⟩

/-- Updates of a context that leave its trace ids alone. -/
theorem modifyContext (c : Nat) {f : SpanContext → SpanContext}
    (hkeeps : Keeps env w (w.modifyContext c f))
    (hf : ∀ context, (f context).segment.relatedTraces = context.segment.relatedTraces) :
    Writes env T Q P w (w.modifyContext c f) := by
  refine same hkeeps rfl (fun _ => rfl) rfl rfl rfl fun x => ?_
  simp only [World.context, World.modifyContext, Store.get_modify]
  split
  · exact hf _
  · rfl

/-- A trace that comes from elsewhere takes the place of the one that the segment generated. -/
theorem relate {c : Nat} {id : ID} (hvalue : id.value ≠ "") (hcls : id.cls ≠ .NewID) :
    Writes env T Q P w (w.modifyContext c (SpanContext.relate id)) := by
  intro hok halone
  have hkeeps : Keeps env w (w.modifyContext c (SpanContext.relate id)) := Keeps.relate c hvalue hcls
  obtain ⟨hok', hevolves⟩ := hkeeps hok
  have htraces : ∀ x < w.contexts.size,
      (∀ other ∈ ((w.modifyContext c (SpanContext.relate id)).context x).segment.relatedTraces,
        other.cls = .NewID → other ∈ (w.context x).segment.relatedTraces ∧
          ((w.modifyContext c (SpanContext.relate id)).context x).segment.relatedTraces = [other]) ∧
      ∀ other ∈ (w.context x).segment.relatedTraces, other.cls ≠ .NewID →
        other ∈ ((w.modifyContext c (SpanContext.relate id)).context x).segment.relatedTraces := by
    intro x hx
    simp only [World.context, World.modifyContext, Store.get_modify]
    split
    · simp only [SpanContext.relate, Segment.relate]
      split
      · next made rest hids =>
        have hsingle := halone x hx ⟨.NewID, made⟩
        simp only [World.context, hids] at hsingle
        obtain ⟨-, rfl⟩ := List.cons.inj (hsingle List.mem_cons_self trivial)
        refine ⟨fun other hother hnew => ?_, fun other hother hold => ?_⟩
        · simp only [hids, List.dropLast_singleton, List.nil_append, List.mem_singleton] at hother
          exact absurd (hother ▸ hnew) hcls
        · simp only [hids, List.mem_singleton] at hother
          exact absurd (congrArg ID.cls hother) hold
      · next hids =>
        refine ⟨fun other hother hnew => ?_, fun other hother _ => List.mem_append_left _ hother⟩
        obtain hother | hother := List.mem_append.mp hother
        · have hsingle := halone x hx other hother hnew
          obtain ⟨cls, value⟩ := other
          obtain rfl : cls = .NewID := hnew
          exact absurd hsingle (hids value [])
        · rw [List.mem_singleton.mp hother] at hnew
          exact absurd hnew hcls
    · refine ⟨fun other hother hnew => ⟨hother, halone x hx other hother hnew⟩, fun other hother _ => hother⟩
  refine ⟨hok', fun x hx other hother hnew => ((htraces x hx).1 other hother hnew).2, hevolves, ?_⟩
  exact { Written.refl env T Q P w with
    refs := fun s hs ref href => .inl ⟨hs, href⟩
    apart := fun c' hc' hge => absurd hc' (not_lt.mpr hge)
    kept := fun x hx => (htraces x hx).2
    generated := fun x hx other hother hnew => .inl ⟨hx, ((htraces x hx).1 other hother hnew).1⟩ }

/-- A new context: a real one has the next id for its segment, and related it to a new trace. -/
theorem allocContext {context : SpanContext} {uuids : Nat}
    (hkeeps : Keeps env w { w with
      dicts := w.dicts.alloc []
      contexts := w.contexts.alloc context
      uuids := uuids })
    (hid : context.noop = false → context.segment.segmentId.value = env.uuid1 w.uuids)
    (htraces : ∀ id ∈ context.segment.relatedTraces, id.cls = .NewID →
      context.segment.relatedTraces = [id] ∧ ∃ k < uuids, id.value = env.uuid1 k) :
    Writes env T Q P w { w with
      dicts := w.dicts.alloc []
      contexts := w.contexts.alloc context
      uuids := uuids } := by
  intro hok halone
  obtain ⟨hok', hevolves⟩ := hkeeps hok
  have hold : ∀ c, c < w.contexts.size → (w.contexts.alloc context).get c = w.contexts.get c :=
    fun c hc => w.contexts.get_alloc_of_lt context hc
  have hnew := w.contexts.get_alloc_size context
  have hcases : ∀ c, c < w.contexts.size + 1 → c < w.contexts.size ∨ c = w.contexts.size :=
    fun c hc => Nat.lt_succ_iff_lt_or_eq.mp hc
  refine ⟨hok', fun c hc id hmem hcls => ?_, hevolves, ?_⟩
  · simp only [World.context] at hmem ⊢
    obtain hlt | rfl := hcases c hc
    · rw [hold c hlt] at hmem ⊢
      exact halone c hlt id hmem hcls
    · rw [hnew] at hmem ⊢
      exact (htraces id hmem hcls).1
  · refine { Written.refl env T Q P w with
      refs := fun s hs ref href => .inl ⟨hs, href⟩
      apart := fun c' hc' hge hreal c hc hreal' => ?_
      kept := fun c hc id hmem _ => ?_
      generated := fun c hc id hmem hcls => ?_ }
    · obtain rfl : c' = w.contexts.size := Nat.le_antisymm (Nat.lt_succ_iff.mp hc') hge
      simp only [World.context] at hreal hreal' ⊢
      rw [hold c hc] at hreal' ⊢
      rw [hnew] at hreal ⊢
      rw [hid hreal]
      obtain ⟨k, hk, hvalue⟩ := hok.segment_id c hc hreal'
      intro heq
      exact hk.ne (env.uuid1_injective (hvalue.symm.trans heq))
    · simp only [World.context]
      rw [hold c hc]
      exact hmem
    · simp only [World.context] at hmem
      obtain hlt | rfl := hcases c hc
      · rw [hold c hlt] at hmem
        exact .inl ⟨hlt, hmem⟩
      · rw [hnew] at hmem
        exact .inr (htraces id hmem hcls).2

theorem new : Writes env T Q P w (SpanContext.new env w).1 := by
  refine allocContext keeps_new (fun _ => rfl) fun id hid _ => ?_
  obtain rfl := List.mem_singleton.mp hid
  exact ⟨rfl, w.uuids + 1, Nat.lt_succ_self _, rfl⟩

theorem newNoop : Writes env T Q P w (SpanContext.newNoop w).1 := by
  refine allocContext keeps_newNoop (fun hreal => by cases hreal) fun id hid hcls => ?_
  obtain rfl := List.mem_singleton.mp hid
  cases hcls

theorem allocCarrier {carrier : Carrier}
    (hkeeps : Keeps env w { w with carriers := w.carriers.alloc carrier })
    (hP : ∀ name, carrier.Gives name → P name) :
    Writes env T Q P w { w with carriers := w.carriers.alloc carrier } := by
  intro hok halone
  obtain ⟨hok', hevolves⟩ := hkeeps hok
  refine ⟨hok', halone, hevolves, { Written.refl env T Q P w with
    refs := fun s hs ref href => .inl ⟨hs, href⟩
    carriers := fun a ha name hgives => ?_ }⟩
  dsimp only at hgives
  obtain hlt | rfl := Nat.lt_succ_iff_lt_or_eq.mp ha
  · rw [w.carriers.get_alloc_of_lt carrier hlt] at hgives
    exact .inl ⟨hlt, hgives⟩
  · rw [w.carriers.get_alloc_size carrier] at hgives
    exact .inr (hP name hgives)

theorem allocSnapshot {snapshot : Snapshot}
    (hkeeps : Keeps env w { w with snapshots := w.snapshots.alloc snapshot })
    (hP : ∀ name, snapshot.Gives env name → P name) :
    Writes env T Q P w { w with snapshots := w.snapshots.alloc snapshot } := by
  intro hok halone
  obtain ⟨hok', hevolves⟩ := hkeeps hok
  refine ⟨hok', halone, hevolves, { Written.refl env T Q P w with
    refs := fun s hs ref href => .inl ⟨hs, href⟩
    snapshots := fun a ha name hgives => ?_ }⟩
  dsimp only at hgives
  obtain hlt | rfl := Nat.lt_succ_iff_lt_or_eq.mp ha
  · rw [w.snapshots.get_alloc_of_lt snapshot hlt] at hgives
    exact .inl ⟨hlt, hgives⟩
  · rw [w.snapshots.get_alloc_size snapshot] at hgives
    exact .inr (hP name hgives)

end Writes

section Operations

theorem writes_idOf (rawId : String) : Writes env T Q P w (Span.idOf env rawId w).1 := by
  have hkeeps := (keeps_idOf env w rawId).1
  unfold Span.idOf at hkeeps ⊢
  split
  · next hempty =>
    rw [if_pos hempty] at hkeeps
    exact .same hkeeps rfl (fun _ => rfl) rfl rfl rfl fun _ => rfl
  · exact .refl w

/-- A span takes up a carrier whose map no snapshot owns. -/
theorem writes_extractReal {span : Nat} {carrier : Carrier}
    (hd : carrier.correlation < w.dicts.size)
    (hprivate : ∀ a < w.snapshots.size, carrier.correlation ≠ (w.snapshots.get a).correlation)
    (hT : T span) (hQ : ∀ name, carrier.Gives name → Q name) :
    Writes env T Q P w (Span.extractReal env span carrier w).1 := by
  obtain ⟨-, hvalue, hcls⟩ := keeps_idOf env w carrier.traceId
  obtain ⟨hdicts, hsnapshots⟩ := idOf_stores env carrier.traceId w
  rw [← hdicts] at hd
  rw [← hsnapshots] at hprivate
  have hbase : ∀ c c', Writes env T Q P w (((Span.idOf env carrier.traceId w).1.modifyContext c
      (SpanContext.relate (Span.idOf env carrier.traceId w).2)).modifyContext c'
      (SpanContext.withCorrelation carrier.correlation)) := fun c c' =>
    ((writes_idOf carrier.traceId).trans (.relate hvalue (by simp [hcls]))).trans
      (.modifyContext c' (.withCorrelation c' hd hprivate) fun _ => rfl)
  unfold Span.extractReal
  dsimp only
  split
  · exact hbase _ _
  · exact hbase _ _
  · next hvalid =>
    split
    · exact hbase _ _
    · next ref href =>
      split
      · exact hbase _ _
      · refine (hbase _ _).andThen fun hok _ _ => .addRef hT (hQ _ ⟨hvalid, ref, href, rfl⟩) fun _ => ?_
        have htrace : carrier.traceId ≠ "" := (Carrier.isValid_eq_ok_true.mp hvalid).1
        have hid : ref.traceId = carrier.traceId := by
          obtain ⟨spanId, -, rfl⟩ := SegmentRef.of_ofCarrier href
          rfl
        rw [idOf_of_ne htrace, hid]
        refine ⟨⟨.ID, carrier.traceId⟩, ?_, by simp, rfl⟩
        change _ ∈ ((taken span carrier w).context (w.span span).context).segment.relatedTraces
        rw [taken_context, if_pos rfl]
        exact Segment.mem_relate _ _

/-- A new span takes the name of the parent only if that was finished. -/
theorem writes_newSpan {self : Nat} (hself : self < w.contexts.size) {parent : Option Nat}
    (hlt : ∀ p ∈ parent, p < w.spans.size) (hT : T w.spans.size)
    (hQ : ∀ p ∈ parent, (w.span p).depth = 0 → ∀ name, (Span.carrierOf env p w).Gives name → Q name)
    (cls : SpanClass) (op : String) (peer : Option String) (component : Option Component) :
    Writes env T Q P w (SpanContext.newSpan env self parent cls op peer component w).1 := by
  cases hfinished : SpanContext.isFinished parent w with
  | false =>
      rw [newSpan_of_not_finished env w self parent cls op peer component hfinished]
      have hnext : Writes env T Q P w (w.modifyContext self SpanContext.nextSid) :=
        .modifyContext self (keeps_nextSid self) fun _ => rfl
      exact hnext.trans (.allocSpan hself rfl)
  | true =>
      cases parent with
      | none => cases hfinished
      | some parent =>
          have hdepth : (w.span parent).depth = 0 := by
            simpa [SpanContext.isFinished] using hfinished
          have hparent := hlt parent rfl
          rw [newSpan_of_finished env w self cls op peer component hdepth]
          dsimp only
          have hspan : Writes env T Q P w (detached env cls op peer component w) :=
            (Writes.new.trans (.modifyContext _ (keeps_nextSid _) fun _ => rfl)).trans
              (.allocSpan (Nat.lt_succ_self _) rfl)
          refine hspan.andThen fun hok hok' hevolves => writes_extractReal ?_ ?_ hT ?_
          · exact hok'.correlation_lt _ (hok'.span_context parent (hparent.trans_le hevolves.spans_le))
          · intro a ha
            exact hok'.snapshot_context a ha _ (hok'.span_context parent (hparent.trans_le hevolves.spans_le))
          · intro name hgives
            have hsame := carrierOf_detached cls op peer component hok hparent
            rw [detached] at hsame
            rw [hsame] at hgives
            exact hQ parent rfl hdepth name hgives

theorem carrierOf_spansGet (env : Env) (s task : Nat) (w : World) :
    Span.carrierOf env s (w.spansGet task) = Span.carrierOf env s w := by
  simp only [Span.carrierOf, World.span, World.context, spansGet_spans, spansGet_contexts]

section Calls

variable {task self : Nat} (hself : self < w.contexts.size) (hT : T w.spans.size)
  (hQ : ∀ top ∈ (w.view task).getLast?, (w.span top).depth = 0 →
    ∀ name, (Span.carrierOf env top w).Gives name → Q name)

include hself hT hQ

theorem writes_newSpan_top (cls : SpanClass) (op : String) (peer : Option String)
    (component : Option Component) :
    Writes env T Q P w (SpanContext.newSpan env self (w.view task).getLast? cls op peer component
      (w.spansGet task)).1 := by
  refine (Writes.spansGet task).andThen fun hok _ hevolves =>
    writes_newSpan (hself.trans_le hevolves.contexts_le)
      (fun p hp => (hok.top_lt p hp).trans_le hevolves.spans_le) ?_ ?_ cls op peer component
  · rw [spansGet_spans]
    exact hT
  · intro p hp hdepth name hgives
    rw [spansGet_span] at hdepth
    rw [carrierOf_spansGet] at hgives
    exact hQ p hp hdepth name hgives

theorem writes_call (answers : Answers) {call : Call} (hcarrier : ∀ a ∈ call.carrier, a < w.carriers.size)
    (hcarriers : ∀ a < w.carriers.size, ∀ name, (w.carriers.get a).Gives name → Q name) :
    Writes env T Q P w (call.run env task self answers w).1 := by
  have hnoop : ∀ c < w.contexts.size, Writes env T Q P w (Span.newNoop c w).1 :=
    fun c hc => .allocSpan hc rfl
  have hignored : Writes env T Q P w (Span.newNoop w.contexts.size (SpanContext.newNoop w).1).1 :=
    Writes.newNoop.trans (.allocSpan (Nat.lt_succ_self _) rfl)
  cases call with
  | newLocalSpan op =>
      exact newLocalSpan_rule env task self answers op (hnoop self hself) (.refl w) hignored
        (writes_newSpan_top hself hT hQ .Span op none none)
  | newEntrySpan op carrier inherit =>
      refine newEntrySpan_rule env task self answers op carrier inherit (hnoop self hself) (.refl w) hignored
        (fun _ => (Writes.spansGet task).trans (.modifySpan _ fun _ => ⟨rfl, rfl, rfl⟩))
        (writes_newSpan_top hself hT hQ .EntrySpan op none none) ?_
      intro a span w' ha heq _ hok halone
      have hnew : Writes env T Q (fun _ => False) w _ :=
        writes_newSpan_top hself hT hQ .EntrySpan op none none
      have hspan : span = w.spans.size := by
        have hsize := newSpan_ok env (w.spansGet task) self (w.view task).getLast? .EntrySpan op none none
          (congrArg Prod.snd heq)
        rw [hsize, spansGet_spans]
      rw [heq] at hnew
      obtain ⟨-, -, hevolves, hwritten⟩ := hnew hok halone
      have halt := (hcarrier a ha).trans_le hevolves.carriers_le
      have hextract := (hnew.mono (fun _ h => h) (fun _ h => h) fun _ h => h.elim).andThen (P := P)
        fun _ hok' _ => writes_extractReal (hok'.carrier_lt a halt)
          (fun b hb => hok'.snapshot_carrier b hb a halt) (hspan ▸ hT) fun name hgives => by
            obtain ⟨hlt, hold⟩ | hnone := hwritten.carriers a halt name hgives
            · exact hcarriers a hlt name hold
            · exact hnone.elim
      exact hextract hok halone
  | newExitSpan op peer component inherit =>
      exact newExitSpan_rule env task self answers op peer component inherit (hnoop self hself) (.refl w)
        hignored (fun _ => (Writes.spansGet task).trans (.modifySpan _ fun _ => ⟨rfl, rfl, rfl⟩))
        (writes_newSpan_top hself hT hQ .ExitSpan op peer component)
        fun _ _ _ hwrites => hwrites.trans (.modifySpan _ fun _ => ⟨rfl, rfl, rfl⟩)

end Calls

theorem writes_getContext (task : Nat) (sampled : Bool) :
    Writes env T Q P w (getContext env task sampled w).1 := by
  unfold getContext
  dsimp only
  split
  · exact .spansGet task
  · split
    · exact (Writes.spansGet task).trans .new
    · exact (Writes.spansGet task).trans .newNoop

theorem writes_start (task : Nat) {s : Nat} (hs : s < w.spans.size) :
    Writes env T Q P w (Span.start task s w) := by
  have hledger := ledger_start task s w
  refine .steady (keeps_start task hs) (.start task s w) ?_ (carriers_start task s w) ?_
  · exact (congrArg (fun l => l.spans.size) hledger).trans (w.ledger.spans_size_start s)
  · exact (congrArg (fun l => l.contexts.size) hledger).trans (w.ledger.contexts_size_start s)

theorem writes_stop (task s : Nat) (queueFull : Bool) :
    Writes env T Q P w (Span.stop task s queueFull w).1 := by
  have hledger := ledger_stop task s queueFull w
  refine .steady (keeps_stop task s queueFull) (.stop task s queueFull w) ?_
    (carriers_stop task s queueFull w) ?_
  · exact (congrArg (fun l => l.spans.size) hledger).trans (w.ledger.spans_size_stop s)
  · exact (congrArg (fun l => l.contexts.size) hledger).trans (w.ledger.contexts_size_stop s)

theorem writes_edit (s : Nat) (change : Edit) : Writes env T Q P w (change.run env s w).1 := by
  cases change with
  | tag value =>
      simp only [Edit.run, Span.tag]
      split
      · exact .refl w
      · exact .modifySpan s fun _ => ⟨rfl, rfl, rfl⟩
  | op value => exact .modifySpan s fun _ => ⟨rfl, rfl, rfl⟩
  | peer value => exact .modifySpan s fun _ => ⟨rfl, rfl, rfl⟩
  | component value => exact .modifySpan s fun _ => ⟨rfl, rfl, rfl⟩
  | layer value => exact .modifySpan s fun _ => ⟨rfl, rfl, rfl⟩
  | log text => exact .modifySpan s fun _ => ⟨rfl, rfl, rfl⟩

/-- A carrier without a trace id gives no name. -/
theorem Carrier.not_gives_fresh (correlation : Nat) (name : SpanName) :
    ¬ (Carrier.fresh correlation).Gives name := by
  rintro ⟨hvalid, -⟩
  exact (Carrier.isValid_eq_ok_true.mp hvalid).1 rfl

theorem writes_allocDict {dict : Correlation} (hkeys : dict.KeysOk) :
    Writes env T Q P w { w with dicts := w.dicts.alloc dict } :=
  .same (.allocDict hkeys) rfl (fun _ => rfl) rfl rfl rfl fun _ => rfl

theorem writes_inject {s : Nat} (hs : s < w.spans.size)
    (hP : (w.span s).cls = .ExitSpan → ∀ name, (Span.carrierOf env s w).Gives name → P name) :
    Writes env T Q P w (Span.inject env s w).1 := by
  unfold Span.inject
  split
  · next hexit =>
    refine Writes.andThen (.refl w) fun hok _ _ => .allocCarrier (.allocCarrier _ ?_ ?_) (hP hexit)
    · exact hok.correlation_lt _ (hok.span_context s hs)
    · exact fun a ha => hok.snapshot_context a ha _ (hok.span_context s hs)
  · refine (writes_allocDict Correlation.KeysOk.nil).andThen fun hok _ _ => .allocCarrier ?_ ?_
    · exact .allocCarrier _ (Nat.lt_succ_self _) fun a ha => (hok.snapshot_lt a ha).ne'
    · exact fun name hgives => absurd hgives (Carrier.not_gives_fresh _ name)
  · exact .refl w

theorem writes_receive {sw8 : String} (correlation : String) (hP : ∀ name, HeaderGives sw8 name → P name) :
    Writes env T Q P w (receiveCarrier env sw8 correlation w).1 := by
  have hdict : Writes env T Q P w { w with dicts := w.dicts.alloc (Correlation.setVal env [] correlation).1 } :=
    writes_allocDict (Correlation.KeysOk.nil.setVal env correlation)
  unfold receiveCarrier
  dsimp only
  split
  · refine hdict.andThen fun hok _ _ => .allocCarrier ?_ ?_
    · exact .allocCarrier _ (Nat.lt_succ_self _) fun a ha => (hok.snapshot_lt a ha).ne'
    · exact fun name hgives => absurd hgives (Carrier.not_gives_fresh _ name)
  · refine hdict.andThen fun hok _ _ => .allocCarrier (.allocCarrier _ ?_ fun a ha => ?_) ?_
    · rw [Carrier.setVal_correlation]
      exact Nat.lt_succ_self _
    · rw [Carrier.setVal_correlation]
      exact (hok.snapshot_lt a ha).ne'
    · exact fun name hgives => hP name ⟨w.dicts.size, hgives⟩

theorem writes_extract {s : Nat} {a : Nat} (ha : a < w.carriers.size) (hT : T s)
    (hQ : ∀ name, (w.carriers.get a).Gives name → Q name) :
    Writes env T Q P w (Span.extract env s (w.carriers.get a) w).1 := by
  unfold Span.extract
  split
  · exact .refl w
  · exact Writes.andThen (.refl w) fun hok _ _ => writes_extractReal (hok.carrier_lt a ha)
      (fun b hb => hok.snapshot_carrier b hb a ha) hT hQ

theorem writes_modifyDict {c : Nat} (hc : c < w.contexts.size) {f : Correlation → Correlation}
    (hf : ∀ dict : Correlation, dict.KeysOk → (f dict).KeysOk) :
    Writes env T Q P w { w with dicts := w.dicts.modify (w.context c).correlation f } :=
  .same (.modifyDict hc hf) rfl (fun _ => rfl) rfl rfl rfl fun _ => rfl

theorem writes_newSnapshot {snapshot : Snapshot} {dict : Correlation} (hkeys : dict.KeysOk)
    (hP : ∀ correlation name, ({ snapshot with correlation := correlation } : Snapshot).Gives env name →
      P name) :
    Writes env T Q P w (SpanContext.newSnapshot snapshot dict w).1 := by
  refine (writes_allocDict hkeys).andThen fun hok _ _ => .allocSnapshot ?_ (hP w.dicts.size)
  exact .allocSnapshot { snapshot with correlation := w.dicts.size } (Nat.lt_succ_self _)
    (fun c hc => (hok.correlation_lt c hc).ne) fun b hb => (hok.carrier_lt b hb).ne

/-- A snapshot names the span on top of the stack, by the segment of the context that takes it. -/
theorem writes_capture {task self : Nat} (hP : (w.context self).noop = false →
      ∀ top ∈ (w.view task).getLast?, ∀ bottom correlation name,
        (snapshotOf self top bottom correlation w).Gives env name → P name) :
    Writes env T Q P w (SpanContext.capture task self w).1 := by
  cases hnoop : (w.context self).noop with
  | true =>
      unfold SpanContext.capture
      dsimp only
      rw [if_pos hnoop]
      refine Writes.andThen (.refl w) fun hok _ _ => writes_newSnapshot (hok.keys _) ?_
      rintro correlation name ⟨hvalid, -⟩
      cases hvalid
  | false =>
      cases htop : (w.view task).getLast? with
      | none =>
          have hempty := List.getLast?_eq_none_iff.mp htop
          have hspans : (SpanContext.capture task self w).1 = w.spansGet task := by
            unfold SpanContext.capture
            dsimp only
            rw [if_neg (by simp [hnoop])]
            split
            · rfl
            · next hview =>
              rw [hempty] at hview
              cases hview
          rw [hspans]
          exact .spansGet task
      | some top =>
          obtain ⟨bottom, hbottom⟩ : ∃ bottom, (w.view task).head? = some bottom := by
            cases hview : w.view task with
            | nil => simp [hview] at htop
            | cons first rest => exact ⟨first, rfl⟩
          rw [capture_eq hnoop htop hbottom]
          refine Writes.andThen (.refl w) fun hok _ _ => ?_
          have hnew : Writes env T Q P w (SpanContext.newSnapshot (snapshotOf self top bottom 0 w)
              (w.dicts.get (w.context self).correlation) w).1 := by
            refine writes_newSnapshot (hok.keys _) fun correlation name hgives => ?_
            exact hP hnoop top htop bottom correlation name hgives
          exact hnew

section Continued

variable {task self : Nat} (hP : (w.context self).noop = false →
  ∀ top ∈ (w.view task).getLast?, ∀ bottom correlation name,
    (snapshotOf self top bottom correlation w).Gives env name → P name)

include hP

theorem writes_isFromCurrent (snapshot : Snapshot) :
    Writes env T Q P w (SpanContext.isFromCurrent task self snapshot w).1 := by
  have hcapture : Writes env T Q P w (SpanContext.capture task self w).1 := writes_capture hP
  unfold SpanContext.isFromCurrent
  split
  · exact .refl w
  · split <;> next heq =>
      rw [heq] at hcapture
      exact hcapture

theorem writes_continued (hself : self < w.contexts.size) {snapshot : Nat}
    (hT : ∀ top ∈ (w.view task).getLast?, T top)
    (hown : ∀ top ∈ (w.view task).getLast?, (w.span top).cls = .NoopSpan ∨ self = (w.span top).context)
    (hQ : ∀ name, (w.snapshots.get snapshot).Gives env name → Q name ∧ name.traceId ≠ "") :
    Writes env T Q P w (SpanContext.continued env task self snapshot w).1 := by
  intro hok
  have hview := (quiet_isFromCurrent hok.vars_lt task self (w.snapshots.get snapshot)).view_eq task
  have hcurrent : Writes env T Q P w _ := writes_isFromCurrent hP (w.snapshots.get snapshot)
  revert hok
  unfold SpanContext.continued
  dsimp only
  split
  · exact writes_modifyDict hself fun _ hkeys => hkeys.update _
  split
  · next heq =>
    rw [heq] at hcurrent
    exact hcurrent
  · next heq =>
    rw [heq] at hcurrent
    exact hcurrent
  · next w' heq =>
    rw [heq] at hcurrent hview
    dsimp only at hcurrent hview
    split
    · next hvalid =>
      split
      · exact hcurrent
      · next ref href =>
        obtain ⟨hname, htrace⟩ := hQ ref.name ⟨hvalid, ref, href, rfl⟩
        have htrace' : ref.traceId ≠ "" := htrace
        split
        · exact hcurrent
        · next top htop =>
          rw [hview] at htop
          rw [idOf_of_ne htrace']
          have hrelated : Writes env T Q P w' (w'.modifyContext self (SpanContext.relate ⟨.ID, ref.traceId⟩)) :=
            .relate htrace' (by simp)
          have hboth := hcurrent.trans hrelated
          -- the reference may as well be added after the trace id
          have hadded : Writes env T Q P w ((w'.modifyContext self
              (SpanContext.relate ⟨.ID, ref.traceId⟩)).modifySpan top (Span.addRef ref)) := by
            refine hboth.andThen fun hok _ hevolves => .addRef (hT top htop) hname fun hreal => ?_
            obtain ⟨hcls, hcontext⟩ := hevolves.span_same top (hok.top_lt top htop)
            obtain hnoop | hself' := hown top htop
            · exact absurd (hcls.trans hnoop) hreal
            · refine ⟨⟨.ID, ref.traceId⟩, ?_, by simp, rfl⟩
              rw [hcontext, ← hself']
              simp only [World.context, World.modifyContext, Store.get_modify_self]
              exact Segment.mem_relate _ _
          refine hadded.andThen fun _ _ hevolves => ?_
          exact writes_modifyDict (hself.trans_le hevolves.contexts_le) fun _ hkeys => hkeys.update _
    · exact hcurrent

end Continued

/-- **What a call writes down.** It may give references to one span only, under names that were brought in,
or under that of the finished parent of a new span. -/
theorem ApiAction.writes {action : ApiAction} (henabled : action.Enabled w) (hhands : HandsOver w action)
    (hcarriers : ∀ a < w.carriers.size, ∀ name, (w.carriers.get a).Gives name → Q name)
    (hsnapshots : ∀ a < w.snapshots.size, ∀ name, (w.snapshots.get a).Gives env name →
      Q name ∧ name.traceId ≠ "")
    (hfinished : ∀ task self answers call, action = .newSpan task self answers call →
      ∀ top ∈ action.announces w, ∀ name, (Span.carrierOf env top w).Gives name → Q name)
    (hreceived : ∀ sw8 correlation, action = .receive sw8 correlation →
      ∀ name, HeaderGives sw8 name → P name)
    (hinjected : ∀ s ∈ action.announces w, ∀ name, (Span.carrierOf env s w).Gives name → P name)
    (hcaptured : ∀ s ∈ action.announces w, ∀ c < w.contexts.size, (w.context c).noop = false →
      ((w.span s).cls = .NoopSpan ∨ c = (w.span s).context) → ∀ bottom correlation name,
        (snapshotOf c s bottom correlation w).Gives env name → P name) :
    Writes env (fun s => action.taker w = some s) Q P w (action.run env w) := by
  cases action with
  | spawn creator child => exact .same (keeps_action henabled) rfl (fun _ => rfl) rfl rfl rfl fun _ => rfl
  | thread child => exact .same (keeps_action henabled) rfl (fun _ => rfl) rfl rfl rfl fun _ => rfl
  | wait seconds => exact .same (keeps_action henabled) rfl (fun _ => rfl) rfl rfl rfl fun _ => rfl
  | getContext task sampled => exact writes_getContext task sampled
  | newSpan task self answers call =>
      refine writes_call (T := fun s => ApiAction.taker w (.newSpan task self answers call) = some s)
        henabled.1 rfl ?_ answers henabled.2 hcarriers
      intro top htop hdepth
      refine hfinished task self answers call rfl top ?_
      simp only [ApiAction.announces, Option.mem_def, Option.filter_eq_some_iff]
      exact ⟨htop, by simpa using hdepth⟩
  | start task span => exact writes_start task henabled
  | stop task span queueFull => exact writes_stop task span queueFull
  | raised span traceback => exact .modifySpan span fun _ => ⟨rfl, rfl, rfl⟩
  | edit span change => exact writes_edit span change
  | inject span => exact writes_inject henabled fun _ => hinjected span rfl
  | receive sw8 correlation => exact writes_receive correlation (hreceived sw8 correlation rfl)
  | extract span carrier => exact writes_extract henabled.2 rfl (hcarriers carrier henabled.2)
  | putCorrelation self key value => exact writes_modifyDict henabled fun _ hkeys => hkeys.putDict env key value
  | capture task self =>
      refine writes_capture fun hreal top htop => ?_
      exact hcaptured top htop self henabled hreal (hhands top htop)
  | continued task self snapshot =>
      refine writes_continued ?_ henabled.1 (fun top htop => htop) hhands (hsnapshots snapshot henabled.2)
      intro hreal top htop
      exact hcaptured top htop self henabled.1 hreal (hhands top htop)

end Operations

end SkyWalking
