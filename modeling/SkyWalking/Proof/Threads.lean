import SkyWalking.Proof.ContextFrame

/-!
# Threads that continue a trace
-/

namespace SkyWalking

open World

variable {env : Env} {w w' w'' : World}

/-- The thread of `task` is inside its first span, in a context of its own that was related to nothing
yet. -/
structure FirstSpan (env : Env) (task : Nat) (w w' : World) (context span : Nat) : Prop where
  view : w'.view task = [span]
  span_context : (w'.span span).context = context
  refs : (w'.span span).refs = []
  noop : (w'.context context).noop = false
  traces : ∃ made, (w'.context context).segment.relatedTraces = [⟨.NewID, made⟩]
  segment_id : (w'.context context).segment.segmentId.value = env.uuid1 w.uuids
  correlation : (w'.context context).correlation = w.dicts.size
  dicts : w'.dicts = w.dicts.alloc []
  snapshots : w'.snapshots = w.snapshots

theorem newLocalSpan_of_root {task context : Nat} (hroot : RootContext env task w w' context)
    (op : String) :
    SpanContext.newLocalSpan env task context ⟨false, false⟩ op w' =
      (rooted .Span context op w', .ok w'.spans.size) := by
  have hnoop : ¬ (w'.context context).noop = true := by simp [hroot.noop]
  have hignore : SpanContext.ignoreCheck ⟨false, false⟩ none w' = (w', .ok none) := rfl
  unfold SpanContext.newLocalSpan
  rw [if_neg hnoop, hignore]
  simp only [SpanContext.peek, hroot.view, List.getLast?_nil, hroot.var, newSpan_of_root]

theorem start_of_root (hok : w'.VarsOk) {task context : Nat} (hroot : RootContext env task w w' context)
    (op : String) :
    FirstSpan env task w (Span.start task w'.spans.size (rooted .Span context op w')) context
      w'.spans.size := by
  have hsteady := Steady.start task w'.spans.size (rooted .Span context op w')
  have hspan := rooted_span_new w' .Span context op
  have hcontext := rooted_context w' .Span context op
  obtain ⟨made, hmade⟩ := hroot.traces
  obtain ⟨hnoop, hid, htraces, hmap⟩ := hsteady.context context
  obtain ⟨hrefs, hspanContext⟩ := hsteady.span w'.spans.size
  rw [hcontext] at hnoop hid htraces hmap
  rw [hspan] at hrefs hspanContext
  refine ⟨?_, hspanContext, hrefs, hnoop.trans hroot.noop, ⟨made, htraces.trans hmade⟩, ?_,
    hmap.trans hroot.correlation, hsteady.dicts.trans hroot.dicts,
    hsteady.snapshots.trans hroot.snapshots⟩
  · have hview : (rooted .Span context op w').view task = [] := hroot.view
    have hdepth : ((rooted .Span context op w').span w'.spans.size).depth = 0 := by
      rw [hspan]
      rfl
    have hokRooted : (rooted .Span context op w').VarsOk := hok
    rw [view_start hokRooted, if_pos ⟨rfl, hdepth⟩, hview]
    rfl
  · rw [hid]
    exact hroot.segment_id

/-- The snapshot that a real context takes while `top` is on top of the stack of `task` and `bottom` is
at its bottom; `correlation` is the address of its map. -/
def snapshotOf (self top bottom correlation : Nat) (w : World) : Snapshot :=
  { segmentId := some (w.context self).segment.segmentId.value
    spanId := (w.span top).sid
    traceId := (w.context self).segment.relatedTraces.head?
    endpoint := some (w.span bottom).op
    correlation := correlation }

theorem capture_eq {task self top bottom : Nat} (hreal : (w.context self).noop = false)
    (htop : (w.view task).getLast? = some top) (hbottom : (w.view task).head? = some bottom) :
    SpanContext.capture task self w =
      ({ w with
          dicts := w.dicts.alloc (w.dicts.get (w.context self).correlation)
          snapshots := w.snapshots.alloc (snapshotOf self top bottom w.dicts.size w) },
        some w.snapshots.size) := by
  have hnoop : ¬ (w.context self).noop = true := by simp [hreal]
  unfold SpanContext.capture
  dsimp only
  rw [if_neg hnoop, spansGet_of_top htop]
  cases hview : w.view task with
  | nil => simp [hview] at htop
  | cons first rest =>
      rw [hview] at htop hbottom
      obtain rfl : first = bottom := Option.some.inj hbottom
      rw [List.getLast?_eq_getLast_of_ne_nil (by simp), Option.some.injEq] at htop
      simp only [htop]
      rfl

theorem isFromCurrent_of_ne {task self top : Nat} (hreal : (w.context self).noop = false)
    (htop : (w.view task).getLast? = some top) {snapshot : Snapshot} {segmentId : String}
    (hid : snapshot.segmentId = some segmentId)
    (hne : segmentId ≠ (w.context self).segment.segmentId.value) :
    ∃ snap, SpanContext.isFromCurrent task self snapshot w =
      ({ w with
          dicts := w.dicts.alloc (w.dicts.get (w.context self).correlation)
          snapshots := w.snapshots.alloc snap }, .ok false) := by
  obtain ⟨bottom, hbottom⟩ : ∃ bottom, (w.view task).head? = some bottom := by
    cases hview : w.view task with
    | nil => simp [hview] at htop
    | cons first rest => exact ⟨first, rfl⟩
  refine ⟨snapshotOf self top bottom w.dicts.size w, ?_⟩
  unfold SpanContext.isFromCurrent
  rw [hid]
  dsimp only
  rw [capture_eq hreal htop hbottom]
  simp [snapshotOf, hne]

theorem Correlation.update_nil {other : Correlation} (hkeys : other.KeysOk) :
    Correlation.update [] other = other := by
  have hfold : ∀ (rest : Correlation) (dict : Correlation), ((dict ++ rest).map Prod.fst).Nodup →
      Correlation.update dict rest = dict ++ rest := by
    intro rest
    induction rest with
    | nil => simp [Correlation.update]
    | cons entry rest ih =>
        intro dict hnodup
        have hnew : entry.1 ∉ dict.map Prod.fst := by
          intro hmem
          rw [List.map_append, List.nodup_append] at hnodup
          exact hnodup.2.2 entry.1 hmem entry.1 (by simp) rfl
        have happend : dict ++ entry :: rest = (dict ++ [entry]) ++ rest := by simp
        rw [happend] at hnodup ⊢
        rw [← ih _ hnodup, ← Correlation.insert_of_new entry.2 hnew]
        rfl
  exact hfold other [] hkeys

/-- A snapshot of a segment that exists. -/
structure Takeable (env : Env) (w : World) (snapshot : Snapshot) (segmentId traceId : String) :
    Prop where
  segment : snapshot.segmentId = some segmentId
  older : ∃ k < w.uuids, segmentId = env.uuid1 k
  span : 0 ≤ snapshot.spanId
  trace : ∃ id, snapshot.traceId = some id ∧ id.value = traceId
  trace_ne : traceId ≠ ""

/-- The reference that `SegmentRef.build_ref` makes of a snapshot. -/
def threadRef (env : Env) (snapshot : Snapshot) (segmentId traceId : String) : SegmentRef :=
  { refType := "CrossThread"
    traceId := traceId
    segmentId := segmentId
    spanId := snapshot.spanId
    service := env.agentName
    serviceInstance := env.agentInstanceName
    endpoint := snapshot.endpoint
    clientAddress := some "" }

section Take

variable {snapshot : Snapshot} {segmentId traceId : String}

theorem Takeable.evolves (h : Takeable env w snapshot segmentId traceId) (hevolves : Evolves w w') :
    Takeable env w' snapshot segmentId traceId := by
  obtain ⟨k, hk, hid⟩ := h.older
  exact { h with older := ⟨k, hk.trans_le hevolves.uuids_le, hid⟩ }

theorem Takeable.buildRef (h : Takeable env w snapshot segmentId traceId) :
    SpanContext.buildRef env snapshot = .ok (threadRef env snapshot segmentId traceId) := by
  obtain ⟨id, hid, hvalue⟩ := h.trace
  simp [SpanContext.buildRef, SegmentRef.ofCarrier, SpanId.toInt, Except.map, threadRef, h.segment,
    hid, hvalue, Carrier.fresh]

theorem Takeable.isValid (h : Takeable env w snapshot segmentId traceId) :
    SpanContext.isValidSnapshot snapshot = true := by
  obtain ⟨id, hid, -⟩ := h.trace
  have hspan := h.span
  simp only [SpanContext.isValidSnapshot, h.segment, hid, Option.isSome_some, Bool.true_and,
    Bool.and_true, decide_eq_true_eq]
  omega

/-- The segment id of a thread's own context is newer than that of the snapshot. -/
theorem Takeable.ne (h : Takeable env w snapshot segmentId traceId) :
    segmentId ≠ env.uuid1 w.uuids := by
  obtain ⟨k, hk, rfl⟩ := h.older
  exact fun heq => hk.ne (env.uuid1_injective heq)

/-- What the first span of a thread has after the snapshot was taken up. -/
structure Taken (env : Env) (snapshot : Snapshot) (segmentId traceId : String) (w w' : World)
    (context span : Nat) : Prop where
  span_context : (w'.span span).context = context
  refs : (w'.span span).refs = [threadRef env snapshot segmentId traceId]
  noop : (w'.context context).noop = false
  traces : (w'.context context).segment.relatedTraces = [⟨.ID, traceId⟩]
  correlation : (w'.context context).correlation = w.dicts.size
  dict : w'.dicts.get w.dicts.size = w.dicts.get snapshot.correlation

theorem continued_of_first {task context span a : Nat}
    (hfirst : FirstSpan env task w w' context span)
    (htake : Takeable env w (w.snapshots.get a) segmentId traceId)
    (hmap : (w.snapshots.get a).correlation < w.dicts.size)
    (hkeys : (w.dicts.get (w.snapshots.get a).correlation).KeysOk) :
    (SpanContext.continued env task context a w').2 = .ok () ∧
      Taken env (w.snapshots.get a) segmentId traceId w
        (SpanContext.continued env task context a w').1 context span := by
  have hnoop : ¬ (w'.context context).noop = true := by simp [hfirst.noop]
  have hsnap : w'.snapshots.get a = w.snapshots.get a := by rw [hfirst.snapshots]
  have htop : (w'.view task).getLast? = some span := by rw [hfirst.view]; rfl
  obtain ⟨current, hcurrent⟩ := isFromCurrent_of_ne hfirst.noop htop htake.segment
    (by rw [hfirst.segment_id]; exact htake.ne)
  obtain ⟨made, hmade⟩ := hfirst.traces
  unfold SpanContext.continued
  dsimp only
  rw [hsnap, if_neg hnoop, hcurrent]
  dsimp only
  rw [if_pos htake.isValid, htake.buildRef]
  have htop' : ({ w' with
      dicts := w'.dicts.alloc (w'.dicts.get (w'.context context).correlation)
      snapshots := w'.snapshots.alloc current } : World).view task = [span] := hfirst.view
  dsimp only
  rw [htop', List.getLast?_singleton]
  dsimp only
  have hne : (threadRef env (w.snapshots.get a) segmentId traceId).traceId ≠ "" := htake.trace_ne
  rw [idOf_of_ne hne]
  refine ⟨rfl, ?_, ?_, ?_, ?_, ?_, ?_⟩
  · simpa [World.span, World.modifySpan, World.modifyContext, SpanContext.updateCorrelation,
      Span.addRef] using hfirst.span_context
  · simpa [World.span, World.modifySpan, World.modifyContext, SpanContext.updateCorrelation,
      Span.addRef] using hfirst.refs
  · simpa [World.context, World.modifySpan, World.modifyContext, SpanContext.updateCorrelation,
      SpanContext.relate] using hfirst.noop
  · simpa [World.context, World.modifySpan, World.modifyContext, SpanContext.updateCorrelation,
      SpanContext.relate, threadRef] using Segment.relate_of_new hmade ⟨.ID, traceId⟩
  · simpa [World.context, World.modifySpan, World.modifyContext, SpanContext.updateCorrelation,
      SpanContext.relate] using hfirst.correlation
  · have hcorrelation : (w'.contexts.get context).correlation = w.dicts.size := hfirst.correlation
    have hother : ((w.dicts.alloc []).alloc ((w.dicts.alloc []).get w.dicts.size)).get
        (w.snapshots.get a).correlation = w.dicts.get (w.snapshots.get a).correlation := by
      rw [Store.get_alloc_of_lt _ _ (Nat.lt_succ_of_lt hmap), Store.get_alloc_of_lt _ _ hmap]
    have hown : ((w.dicts.alloc []).alloc ((w.dicts.alloc []).get w.dicts.size)).get
        w.dicts.size = [] := by
      rw [Store.get_alloc_of_lt _ _ (Nat.lt_succ_self _), Store.get_alloc_size]
    simp only [World.context, World.modifySpan, World.modifyContext, SpanContext.updateCorrelation,
      Store.get_modify_self, SpanContext.relate, hcorrelation, hfirst.dicts, hother, hown]
    exact Correlation.update_nil hkeys

theorem Taken.steady {context span : Nat}
    (h : Taken env snapshot segmentId traceId w w' context span) (hsteady : Steady w' w'') :
    Taken env snapshot segmentId traceId w w'' context span := by
  obtain ⟨hnoop, -, htraces, hmap⟩ := hsteady.context context
  obtain ⟨hrefs, hcontext⟩ := hsteady.span span
  exact ⟨hcontext.trans h.span_context, hrefs.trans h.refs, hnoop.trans h.noop,
    htraces.trans h.traces, hmap.trans h.correlation, by rw [hsteady.dicts]; exact h.dict⟩

theorem steady_tagAll (span : Nat) (tags : List Tag) :
    ∀ w : World, Steady w (RunnableWrapper.tagAll span tags w).1 := by
  induction tags with
  | nil => exact Steady.refl
  | cons tag rest ih =>
      intro w
      have htag := Steady.tag tag span w
      unfold RunnableWrapper.tagAll
      split
      · next heq =>
        rw [heq] at htag
        exact htag
      · next w' heq =>
        rw [heq] at htag
        exact htag.trans (ih w')

theorem steady_decorate (wrapper : RunnableWrapper) (span : Nat) (w : World) :
    Steady w (wrapper.decorate span w).1 := by
  have hlayer : Steady w (w.modifySpan span fun span => { span with layer := wrapper.layer }) :=
    .modifySpan _ fun _ => ⟨rfl, rfl⟩
  have hcomponent : ∀ w' : World, Steady w' (w'.modifySpan span
      fun span => { span with component := wrapper.component }) :=
    fun w' => .modifySpan _ fun _ => ⟨rfl, rfl⟩
  exact (hlayer.trans (hcomponent _)).trans (steady_tagAll span wrapper.tags _)

theorem enter_takes (hok : WorldOk env w) {task : Nat} (hempty : w.view task = []) {a : Nat}
    (ha : a < w.snapshots.size) (htake : Takeable env w (w.snapshots.get a) segmentId traceId)
    (wrapper : RunnableWrapper) :
    Taken env (w.snapshots.get a) segmentId traceId w
      (wrapper.enter env task ⟨false, false⟩ true (some a) w).1 (getContext env task true w).2
      w.spans.size := by
  have hroot := getContext_of_empty hok hempty
  have hvars : (getContext env task true w).1.VarsOk :=
    (keeps_getContext task true hok).1.vars_lt
  unfold RunnableWrapper.enter
  generalize getContext env task true w = result at hroot hvars
  obtain ⟨w₁, context⟩ := result
  dsimp only at hroot hvars ⊢
  have hfirst := start_of_root hvars hroot wrapper.op
  obtain ⟨hreturns, htaken⟩ := continued_of_first hfirst htake (hok.snapshot_lt a ha) (hok.keys _)
  rw [newLocalSpan_of_root hroot]
  dsimp only [RunnableWrapper.continuedIfAny]
  generalize SpanContext.continued env task context a
    (Span.start task w₁.spans.size (rooted .Span context wrapper.op w₁)) = result at hreturns htaken
  obtain ⟨w₂, outcome⟩ := result
  dsimp only at hreturns htaken
  rw [hreturns, ← hroot.spans]
  exact htaken.steady (steady_decorate wrapper w₁.spans.size w₂)

end Take

/-- Calls of the API lead from `w` to `w'`. -/
def Leads (env : Env) (w w' : World) : Prop := ∃ actions, Run (ApiStep env) w actions w'

namespace Leads

theorem refl (w : World) : Leads env w w := ⟨[], .nil w⟩

theorem step (h : Leads env w w') (action : ApiAction) (henabled : action.Enabled w') :
    Leads env w (action.run env w') := by
  obtain ⟨actions, hrun⟩ := h
  exact ⟨_, hrun.snoc ⟨henabled, rfl⟩⟩

theorem trans (h : Leads env w w') (h' : Leads env w' w'') : Leads env w w'' := by
  obtain ⟨actions, hrun⟩ := h
  obtain ⟨actions', hrun'⟩ := h'
  exact ⟨_, hrun.append hrun'⟩

theorem keeps (h : Leads env w w') : Keeps env w w' := by
  obtain ⟨actions, hrun⟩ := h
  exact keeps_run hrun

theorem tagAll (span : Nat) (tags : List Tag) : ∀ {w' : World}, Leads env w w' →
    span < w'.spans.size → Leads env w (RunnableWrapper.tagAll span tags w').1 := by
  induction tags with
  | nil => exact fun h _ => h
  | cons tag rest ih =>
      intro w' h hspan
      have htag : Leads env w (Span.tag tag span w').1 := h.step (.edit span (.tag tag)) hspan
      have hsize : (Span.tag tag span w').1.spans.size = w'.spans.size := by
        unfold Span.tag
        split <;> rfl
      unfold RunnableWrapper.tagAll
      split
      · next heq =>
        rw [heq] at htag
        exact htag
      · next w'' heq =>
        rw [heq] at htag hsize
        exact ih htag (hsize ▸ hspan)

theorem getContext (task : Nat) (sampled : Bool) (w : World) :
    Leads env w (getContext env task sampled w).1 := (refl w).step (.getContext task sampled) trivial

/-- The wrapper is made of calls of the API. -/
theorem enter (hok : WorldOk env w) (task : Nat) (answers : Answers) (sampled : Bool)
    (wrapper : RunnableWrapper) (snapshot : Option Nat)
    (hsnapshot : ∀ a ∈ snapshot, a < w.snapshots.size) :
    Leads env (SkyWalking.getContext env task sampled w).1
      (wrapper.enter env task answers sampled snapshot w).1 := by
  have hlt := getContext_lt hok task sampled
  obtain ⟨hok₁, hevolves⟩ := keeps_getContext task sampled hok
  unfold RunnableWrapper.enter
  generalize SkyWalking.getContext env task sampled w = result at hok₁ hevolves hlt
  obtain ⟨w₁, context⟩ := result
  dsimp only at hok₁ hevolves hlt ⊢
  have hnew : Leads env w₁ (SpanContext.newLocalSpan env task context answers wrapper.op w₁).1 :=
    (refl w₁).step (.newSpan task context answers (.newLocalSpan wrapper.op))
      ⟨hlt, by simp [Call.carrier]⟩
  have hcontexts := (keeps_newLocalSpan task hlt answers wrapper.op hok₁).2.contexts_le
  have heffect := Call.run_effect env task context answers w₁ (.newLocalSpan wrapper.op)
  rw [Call.run] at heffect
  generalize SpanContext.newLocalSpan env task context answers wrapper.op w₁ = result
    at hnew hcontexts heffect
  obtain ⟨w₂, outcome⟩ := result
  dsimp only at hnew hcontexts heffect ⊢
  cases outcome with
  | error error => exact hnew
  | ok span =>
      have hspan := heffect.span_lt hok₁ rfl
      have hstarted : Leads env w₁ (Span.start task span w₂) := hnew.step (.start task span) hspan
      have hkept := (keeps_start task hspan (hnew.keeps hok₁).1).2
      have hcontinued : Leads env w₁ (RunnableWrapper.continuedIfAny env task context snapshot
          (Span.start task span w₂)).1 := by
        cases snapshot with
        | none => exact hstarted
        | some a =>
            refine hstarted.step (.continued task context a)
              ⟨hlt.trans_le (hcontexts.trans hkept.contexts_le), ?_⟩
            exact (hsnapshot a rfl).trans_le
              (hevolves.snapshots_le.trans (hstarted.keeps hok₁).2.snapshots_le)
      have hsize : span < (RunnableWrapper.continuedIfAny env task context snapshot
          (Span.start task span w₂)).1.spans.size := by
        refine (hspan.trans_le hkept.spans_le).trans_le ?_
        cases snapshot with
        | none => exact le_refl _
        | some a =>
            exact (keeps_continued task (hlt.trans_le (hcontexts.trans hkept.contexts_le)) a
              (hstarted.keeps hok₁).1).2.spans_le
      dsimp only
      generalize RunnableWrapper.continuedIfAny env task context snapshot (Span.start task span w₂) =
        result at hcontinued hsize
      obtain ⟨w₃, outcome⟩ := result
      dsimp only at hcontinued hsize ⊢
      cases outcome with
      | error error => exact hcontinued
      | ok _ =>
          have hlayer := hcontinued.step (.edit span (.layer wrapper.layer)) hsize
          have hcomponent := hlayer.step (.edit span (.component wrapper.component)) hsize
          exact tagAll span wrapper.tags hcomponent hsize

end Leads

theorem keptAt_continued (env : Env) (task : Nat) {self c : Nat} (hne : c ≠ self) (snapshot : Nat)
    (w : World) : KeptAt c w (SpanContext.continued env task self snapshot w).1 := by
  rcases continued_contexts env task self snapshot w with heq | ⟨traceId, heq⟩
  · exact .of_eq (by simp only [World.context, heq])
  · exact .of_eq (by simp only [World.context, heq, Store.get_modify_of_ne _ _ hne])

/-- The contexts that existed before are left alone by a thread that starts with an empty stack. -/
theorem keptAt_enter (env : Env) {task : Nat} (hempty : w.view task = []) (answers : Answers)
    (sampled : Bool) (wrapper : RunnableWrapper) (snapshot : Option Nat) {c : Nat}
    (hc : c < w.contexts.size) :
    KeptAt c w (wrapper.enter env task answers sampled snapshot w).1 := by
  have hcontext := KeptAt.getContext env task sampled hc
  have hsize := (ledger_getContext_of_empty env sampled hempty).2
  have hlt : c < (getContext env task sampled w).1.contexts.size := by
    have hcontexts := congrArg (fun l => l.contexts.size)
      (ledger_getContext_of_empty env sampled hempty).1
    rw [show (getContext env task sampled w).1.contexts.size = w.contexts.size + 1 from hcontexts]
    exact Nat.lt_succ_of_lt hc
  unfold RunnableWrapper.enter
  generalize getContext env task sampled w = result at hcontext hsize hlt
  obtain ⟨w₁, context⟩ := result
  dsimp only at hcontext hsize hlt ⊢
  have hnew := hcontext.trans (.newLocalSpan env task context answers wrapper.op hlt)
  generalize SpanContext.newLocalSpan env task context answers wrapper.op w₁ = result at hnew
  obtain ⟨w₂, outcome⟩ := result
  cases outcome with
  | error error => exact hnew
  | ok span =>
      have hstarted := hnew.trans ((Steady.start task span w₂).keptAt c)
      have hcontinued : KeptAt c w (RunnableWrapper.continuedIfAny env task context snapshot
          (Span.start task span w₂)).1 := by
        cases snapshot with
        | none => exact hstarted
        | some a => exact hstarted.trans (keptAt_continued env task (hsize ▸ hc.ne) a _)
      dsimp only
      generalize RunnableWrapper.continuedIfAny env task context snapshot (Span.start task span w₂) =
        result at hcontinued
      obtain ⟨w₃, outcome⟩ := result
      cases outcome with
      | error error => exact hcontinued
      | ok _ => exact hcontinued.trans ((steady_decorate wrapper span w₃).keptAt c)

theorem getContext_top_eq (env : Env) {task top : Nat} (sampled : Bool)
    (htop : (w.view task).getLast? = some top) :
    getContext env task sampled w = (w, (w.span top).context) := by
  rw [getContext_of_top env sampled htop, spansGet_of_top htop]

/-- What `get_context().capture()` leaves behind. -/
structure Captured (env : Env) (task top : Nat) (w w' : World) (snapshot : Nat)
    (segmentId traceId : String) : Prop where
  keeps : WorldOk env w' ∧ Evolves w w'
  contexts : w'.contexts = w.contexts
  lt : snapshot < w'.snapshots.size
  take : Takeable env w' (w'.snapshots.get snapshot) segmentId traceId
  segmentId_eq : segmentId = (w.context (w.span top).context).segment.segmentId.value
  traceId_eq : (w.context (w.span top).context).traceId = some traceId
  ref : ∃ bottom, (w.view task).head? = some bottom ∧
    (w'.snapshots.get snapshot).endpoint = some (w.span bottom).op ∧
    (w'.snapshots.get snapshot).spanId = (w.span top).sid
  dict : w'.dicts.get (w'.snapshots.get snapshot).correlation =
    w.dicts.get (w.context (w.span top).context).correlation

theorem captureContext_captured (hreach : Reachable env w) {task top : Nat} (sampled : Bool)
    (htop : (w.view task).getLast? = some top)
    (hreal : (w.context (w.span top).context).noop = false) :
    ∃ segmentId traceId, (captureContext env task sampled w).2 = some w.snapshots.size ∧
      Captured env task top w (captureContext env task sampled w).1 w.snapshots.size segmentId
        traceId := by
  have hok := hreach.worldOk
  have hlt := hok.top_lt top htop
  obtain ⟨bottom, hbottom⟩ : ∃ bottom, (w.view task).head? = some bottom := by
    cases hview : w.view task with
    | nil => simp [hview] at htop
    | cons first rest => exact ⟨first, rfl⟩
  obtain ⟨traceId, htrace, -, hne⟩ := hok.traceId_ne hlt hreal
  obtain ⟨k, hk, hid⟩ := hok.segment_id _ (hok.span_context top hlt) hreal
  have hsid : 0 ≤ (w.span top).sid := by
    refine hreach.inv.sid_nonneg top hlt ?_
    have hnoop := hreach.inv.noop_eq top hlt
    exact hnoop.trans hreal
  have hkeeps := keeps_capture task (w.span top).context hok
  unfold captureContext
  rw [getContext_top_eq env sampled htop]
  dsimp only
  rw [capture_eq hreal htop hbottom] at hkeeps ⊢
  refine ⟨_, traceId, rfl, hkeeps, rfl, Nat.lt_succ_self _, ?_, rfl, htrace, ⟨bottom, hbottom, ?_⟩, ?_⟩
  · have hsnap := Store.get_alloc_size w.snapshots
      (snapshotOf (w.span top).context top bottom w.dicts.size w)
    obtain ⟨id, hhead, hvalue⟩ := Option.map_eq_some_iff.mp htrace
    refine ⟨by rw [hsnap]; rfl, ⟨k, hk, hid⟩, by rw [hsnap]; exact hsid, ⟨id, ?_, hvalue⟩, hne⟩
    rw [hsnap]
    exact hhead
  · simp only [Store.get_alloc_size, snapshotOf]
    exact ⟨trivial, trivial⟩
  · simp only [Store.get_alloc_size, snapshotOf]

/-- Putting into the map of one context is not seen in another one with a map of its own. -/
theorem getCorrelation_putCorrelation_of_ne (env : Env) {left right : Nat}
    (hne : (w.context left).correlation ≠ (w.context right).correlation)
    (key value : Option String) (name : String) :
    SpanContext.getCorrelation left name (SpanContext.putCorrelation env right key value w) =
      SpanContext.getCorrelation left name w := by
  have hdict : (SpanContext.putCorrelation env right key value w).dicts.get
      (w.context left).correlation = w.dicts.get (w.context left).correlation :=
    Store.get_modify_of_ne _ _ hne
  exact congrArg (fun dict : Correlation => dict.lookup name) hdict

/-- Two contexts with maps of their own have such maps after a step by which neither takes over the map
of the other: at most one of them takes over a map at all. -/
theorem apart_step (env : Env) {action : ApiAction} {left right : Nat}
    (hleft : left < w.contexts.size) (hright : right < w.contexts.size)
    (hne : (w.context left).correlation ≠ (w.context right).correlation)
    (hapartLeft : action.KeepsApart w left right) (hapartRight : action.KeepsApart w right left) :
    ((action.run env w).context left).correlation ≠
      ((action.run env w).context right).correlation := by
  have hdistinct : left ≠ right := fun h => hne (by rw [h])
  by_cases htakesLeft : ∃ carrier, action.Extracts w left carrier
  · obtain ⟨carrier, htakes⟩ := htakesLeft
    have hkept := (ApiAction.keptAt env hright fun other hother =>
      hdistinct (htakes.context_eq hother)).1
    rw [hkept]
    rcases htakes.correlation_eq env hleft with hsame | hsame <;> rw [hsame]
    · exact hne
    · exact hapartLeft carrier htakes
  · rw [(ApiAction.keptAt env hleft (not_exists.mp htakesLeft)).1]
    by_cases htakesRight : ∃ carrier, action.Extracts w right carrier
    · obtain ⟨carrier, htakes⟩ := htakesRight
      rcases htakes.correlation_eq env hright with hsame | hsame <;> rw [hsame]
      · exact hne
      · exact (hapartRight carrier htakes).symm
    · rw [(ApiAction.keptAt env hright (not_exists.mp htakesRight)).1]
      exact hne

theorem separate_of_ne {left right : Nat} (hleft : left < w.contexts.size)
    (hright : right < w.contexts.size)
    (hne : (w.context left).correlation ≠ (w.context right).correlation) (hok : WorldOk env w) :
    Separate env w left right := by
  intro actions w' hrun
  have hkept := hrun.invariant (I := fun w' => WorldOk env w' ∧ left < w'.contexts.size ∧
      right < w'.contexts.size ∧ (w'.context left).correlation ≠ (w'.context right).correlation)
    ?_ ⟨hok, hleft, hright, hne⟩
  · obtain ⟨-, -, -, hne'⟩ := hkept
    exact fun key value name => ⟨getCorrelation_putCorrelation_of_ne env hne' key value name,
      getCorrelation_putCorrelation_of_ne env hne'.symm key value name⟩
  · rintro w₁ action w₂ ⟨hok₁, hleft₁, hright₁, hne₁⟩ ⟨⟨hapartLeft, hapartRight⟩, henabled, rfl⟩
    obtain ⟨hok₂, hevolves⟩ := keeps_action henabled hok₁
    refine ⟨hok₂, hleft₁.trans_le hevolves.contexts_le, hright₁.trans_le hevolves.contexts_le, ?_⟩
    exact apart_step env hleft₁ hright₁ hne₁ hapartLeft hapartRight

/-- What the wrapper does in a thread with an empty stack to a snapshot that can be taken up. -/
theorem enter_spec (hok : WorldOk env w) {task : Nat} (hempty : w.view task = []) {a : Nat}
    (ha : a < w.snapshots.size) {segmentId traceId : String}
    (htake : Takeable env w (w.snapshots.get a) segmentId traceId) (wrapper : RunnableWrapper) :
    let w' := (wrapper.enter env task ⟨false, false⟩ true (some a) w).1
    Leads env w w' ∧ w.contexts.size < w'.contexts.size ∧
      (∀ c < w.contexts.size, KeptAt c w w') ∧
      Taken env (w.snapshots.get a) segmentId traceId w w' w.contexts.size w.spans.size := by
  obtain ⟨hledger, hcontext⟩ := ledger_getContext_of_empty env true hempty
  have hsize : (getContext env task true w).1.contexts.size = w.contexts.size + 1 :=
    congrArg (fun l => l.contexts.size) hledger
  have hleads := Leads.enter hok task ⟨false, false⟩ true wrapper (some a) (by simpa using ha)
  have hevolves := (hleads.keeps (keeps_getContext task true hok).1).2
  have htaken := enter_takes hok hempty ha htake wrapper
  rw [hcontext] at htaken
  refine ⟨(Leads.getContext task true w).trans hleads, ?_, fun c hc =>
    keptAt_enter env hempty ⟨false, false⟩ true wrapper (some a) hc, htaken⟩
  have hle := hevolves.contexts_le
  omega

/-- A thread that was started with a snapshot continues the trace of the span that was on top when the
snapshot was taken, whatever happened in between. -/
theorem thread_continues (hreach : Reachable env w) {task top : Nat} (sampled : Bool)
    (htop : (w.view task).getLast? = some top)
    (hreal : (w.context (w.span top).context).noop = false) :
    ∃ snapshot, (captureContext env task sampled w).2 = some snapshot ∧
      ∀ w' task' wrapper, Leads env (captureContext env task sampled w).1 w' → w'.view task' = [] →
        let w'' := (RunnableWrapper.enter env task' ⟨false, false⟩ true wrapper (some snapshot) w').1
        ∃ root traceId, (w''.span root).context = w'.contexts.size ∧
          ContinuesThread env w task top w'' root traceId ∧
          Separate env w'' (w.span top).context (w''.span root).context := by
  obtain ⟨segmentId, traceId, hsnapshot, hcaptured⟩ :=
    captureContext_captured hreach sampled htop hreal
  refine ⟨w.snapshots.size, hsnapshot, fun w' task' wrapper hleads hempty => ?_⟩
  obtain ⟨hok₁, hevolves₁⟩ := hcaptured.keeps
  obtain ⟨hok', hevolves⟩ := hleads.keeps hok₁
  have hsame := hevolves.snapshot_same _ hcaptured.lt
  have hlt' := hcaptured.lt.trans_le hevolves.snapshots_le
  have htake := hcaptured.take.evolves hevolves
  rw [← hsame] at htake
  obtain ⟨hleads', hsize, hkept, htaken⟩ := enter_spec hok' hempty hlt' htake wrapper
  have hparent : (w.span top).context < w'.contexts.size :=
    (hreach.worldOk.span_context top (hreach.worldOk.top_lt top htop)).trans_le
      (hevolves₁.contexts_le.trans hevolves.contexts_le)
  obtain ⟨bottom, hbottom, hendpoint, hspanId⟩ := hcaptured.ref
  refine ⟨w'.spans.size, traceId, htaken.span_context, ⟨hcaptured.traceId_eq, ?_, ⟨bottom, hbottom, ?_⟩,
    ?_⟩, ?_⟩
  · rw [htaken.span_context]
    exact htaken.traces
  · rw [htaken.refs, hsame, threadRef, hendpoint, hspanId, hcaptured.segmentId_eq]
  · rw [htaken.span_context, htaken.correlation, htaken.dict, hsame,
      hevolves.snapshot_dict _ hcaptured.lt, hcaptured.dict]
  · obtain ⟨hok'', hevolves''⟩ := hleads'.keeps hok'
    rw [htaken.span_context]
    refine separate_of_ne (hparent.trans hsize) hsize ?_ hok''
    rw [(hkept _ hparent).2, htaken.correlation]
    exact (hok'.correlation_lt _ hparent).ne

/-- All contexts of a tree have the trace id of the root, and so have the snapshots; before the root has
captured it is alone. -/
structure ThreadTree.Inv (env : Env) (root : Nat) (tree : ThreadTree) : Prop where
  reachable : Reachable env tree.world
  root_lt : root < tree.world.contexts.size
  member : ∀ c ∈ tree.members, c < tree.world.contexts.size ∧
    (tree.world.context c).noop = false ∧
    (tree.world.context c).traceId = (tree.world.context root).traceId ∧
    (c = root ∨ ∃ id rest,
      (tree.world.context c).segment.relatedTraces = id :: rest ∧ id.cls ≠ .NewID)
  snapshot : ∀ a ∈ tree.snapshots, a < tree.world.snapshots.size ∧ ∃ segmentId traceId,
    Takeable env tree.world (tree.world.snapshots.get a) segmentId traceId ∧
      (tree.world.context root).traceId = some traceId
  alone : (∀ c ∈ tree.members, c = root) ∧ tree.snapshots = [] ∨ root ∈ tree.captured

/-- The members and the snapshots of a tree stay what they are when the root keeps its traces. -/
theorem ThreadTree.Inv.advance {root : Nat} {tree : ThreadTree} (hinv : tree.Inv env root)
    (hevolves : Evolves tree.world w')
    (hroot : (w'.context root).traceId = (tree.world.context root).traceId) :
    (∀ c ∈ tree.members, c < w'.contexts.size ∧ (w'.context c).noop = false ∧
      (w'.context c).traceId = (w'.context root).traceId ∧
      (c = root ∨ ∃ id rest, (w'.context c).segment.relatedTraces = id :: rest ∧ id.cls ≠ .NewID)) ∧
    ∀ a ∈ tree.snapshots, a < w'.snapshots.size ∧ ∃ segmentId traceId,
      Takeable env w' (w'.snapshots.get a) segmentId traceId ∧
        (w'.context root).traceId = some traceId := by
  refine ⟨fun c hc => ?_, fun a ha => ?_⟩
  · obtain ⟨hlt, hnoop, htrace, hcls⟩ := hinv.member c hc
    refine ⟨hlt.trans_le hevolves.contexts_le, (hevolves.context_same c hlt).1.trans hnoop, ?_⟩
    rcases hcls with rfl | ⟨id, rest, htraces, hcls⟩
    · exact ⟨rfl, .inl rfl⟩
    · obtain ⟨rest', htraces'⟩ := hevolves.trace_kept c hlt id rest htraces hcls
      refine ⟨?_, .inr ⟨id, rest', htraces', hcls⟩⟩
      rw [hroot, ← htrace, SpanContext.traceId, SpanContext.traceId, htraces, htraces']
      rfl
  · obtain ⟨hlt, segmentId, traceId, htake, htrace⟩ := hinv.snapshot a ha
    refine ⟨hlt.trans_le hevolves.snapshots_le, segmentId, traceId, ?_, hroot.trans htrace⟩
    rw [hevolves.snapshot_same a hlt]
    exact htake.evolves hevolves

theorem Reachable.leads (hreach : Reachable env w) (hleads : Leads env w w') : Reachable env w' := by
  obtain ⟨actions, hrun⟩ := hleads
  exact hreach.run hrun

theorem KeptAt.traceId_eq {c : Nat} (h : KeptAt c w w') :
    (w'.context c).traceId = (w.context c).traceId := by
  rw [SpanContext.traceId, SpanContext.traceId, h.1]

theorem ThreadTree.Inv.step {root : Nat} {tree tree' : ThreadTree} (hinv : tree.Inv env root)
    (hstep : ThreadTree.Step env tree tree') : tree'.Inv env root := by
  have hok := hinv.reachable.worldOk
  cases hstep with
  | api action henabled hrelates =>
      have hreach := hinv.reachable.step action henabled
      have hevolves := (keeps_action henabled hok).2
      have hlt := hinv.root_lt.trans_le hevolves.contexts_le
      rcases hinv.alone with ⟨halone, hnone⟩ | hcaptured
      · -- the root may still change its trace: nobody has it yet
        refine ⟨hreach, hlt, fun c hc => ?_, fun a ha => ?_, .inl ⟨halone, hnone⟩⟩
        · obtain ⟨hclt, hnoop, -, -⟩ := hinv.member c hc
          obtain rfl := halone c hc
          exact ⟨hlt, (hevolves.context_same c hclt).1.trans hnoop, rfl, .inl rfl⟩
        · rw [hnone] at ha
          cases ha
      · have hnot := hrelates root hcaptured
        have hkept := (ApiAction.keptAt env hinv.root_lt fun carrier h => hnot (.inl ⟨carrier, h⟩)).2 hnot
        obtain ⟨hmembers, hsnapshots⟩ := hinv.advance hevolves hkept.traceId_eq
        exact ⟨hreach, hlt, hmembers, hsnapshots, .inr hcaptured⟩
  | capture task top snapshot sampled w' htop hmember hcapture =>
      obtain ⟨hclt, hnoop, htrace, -⟩ := hinv.member _ hmember
      obtain ⟨segmentId, traceId, haddress, hcaptured⟩ :=
        captureContext_captured hinv.reachable sampled htop hnoop
      have hrun : (captureContext env task sampled tree.world).1 =
          (ApiAction.capture task (tree.world.span top).context).run env tree.world := by
        rw [captureContext, getContext_top_eq env sampled htop]
        rfl
      have hreach : Reachable env (captureContext env task sampled tree.world).1 :=
        hrun ▸ hinv.reachable.step (.capture task _) hclt
      rw [hcapture] at hreach haddress hcaptured
      dsimp only at hreach haddress hcaptured
      obtain rfl : snapshot = tree.world.snapshots.size := Option.some.inj haddress
      have hcontext : ∀ c, w'.context c = tree.world.context c := by
        intro c
        simp only [World.context, hcaptured.contexts]
      have hroot : (w'.context root).traceId = (tree.world.context root).traceId := by
        rw [hcontext]
      obtain ⟨hmembers, hsnapshots⟩ := hinv.advance hcaptured.keeps.2 hroot
      refine ⟨hreach, hinv.root_lt.trans_le hcaptured.keeps.2.contexts_le, hmembers, ?_, .inr ?_⟩
      · intro a ha
        rcases List.mem_cons.mp ha with rfl | ha
        · have hsame : (w'.context root).traceId = some traceId := calc
            (w'.context root).traceId = (tree.world.context root).traceId := hroot
            _ = _ := htrace.symm
            _ = some traceId := hcaptured.traceId_eq
          exact ⟨hcaptured.lt, segmentId, traceId, hcaptured.take, hsame⟩
        · exact hsnapshots a ha
      · rcases hinv.alone with ⟨halone, -⟩ | hroot
        · rw [halone _ hmember]
          exact List.mem_cons_self
        · exact List.mem_cons_of_mem _ hroot
  | run task snapshot wrapper hempty hsnapshot =>
      obtain ⟨hlt, segmentId, traceId, htake, htrace⟩ := hinv.snapshot snapshot hsnapshot
      obtain ⟨hleads, hsize, hkept, htaken⟩ := enter_spec hok hempty hlt htake wrapper
      have hcontext : (getContext env task true tree.world).2 = tree.world.contexts.size :=
        (ledger_getContext_of_empty env true hempty).2
      have hreach := hinv.reachable.leads hleads
      have hevolves := (hleads.keeps hok).2
      have hroot := (hkept root hinv.root_lt).traceId_eq
      obtain ⟨hmembers, hsnapshots⟩ := hinv.advance hevolves hroot
      refine ⟨hreach, hinv.root_lt.trans_le hevolves.contexts_le, ?_, hsnapshots, .inr ?_⟩
      · intro c hc
        rcases List.mem_cons.mp hc with rfl | hc
        · rw [hcontext]
          have hchild := congrArg (fun traces : List ID => traces.head?.map ID.value) htaken.traces
          exact ⟨hsize, htaken.noop, hchild.trans (hroot.trans htrace).symm,
            .inr ⟨_, _, htaken.traces, by simp⟩⟩
        · exact hmembers c hc
      · rcases hinv.alone with ⟨-, hnone⟩ | hcaptured
        · rw [hnone] at hsnapshot
          cases hsnapshot
        · exact hcaptured

theorem tree_inv {root : Nat} {tree tree' : ThreadTree} (hinv : tree.Inv env root)
    (hrun : Relation.ReflTransGen (ThreadTree.Step env) tree tree') : tree'.Inv env root := by
  induction hrun with
  | refl => exact hinv
  | tail _ hstep ih => exact ih.step hstep

/-- **Trace continuity across threads.** A thread that runs with a snapshot continues the trace that its
creator had when the snapshot was taken, and has a correlation map of its own; so all segments of a tree
of threads have the trace id of the root. -/
theorem trace_continues_across_threads (env : Env) :
    (∀ (w : World) (task top : Nat) (sampled : Bool), Reachable env w →
      (w.view task).getLast? = some top → (w.span top).cls ≠ .NoopSpan →
      ∃ snapshot, (captureContext env task sampled w).2 = some snapshot ∧
        ∀ actions w' task' wrapper w'',
          Run (ApiStep env) (captureContext env task sampled w).1 actions w' →
          w'.view task' = [] → RunnableWrapper.Continued env task' wrapper snapshot w' w'' →
          ∃ root traceId, (w''.span root).context = w'.contexts.size ∧
            ContinuesThread env w task top w'' root traceId ∧
            Separate env w'' (w.span top).context (w''.span root).context) ∧
    (∀ (w : World) (root : Nat) (tree : ThreadTree), Reachable env w → root < w.contexts.size →
      (w.context root).noop = false →
      Relation.ReflTransGen (ThreadTree.Step env) ⟨w, [root], [], []⟩ tree →
      ∀ c ∈ tree.members,
        (tree.world.context c).traceId = (tree.world.context root).traceId) := by
  refine ⟨?_, ?_⟩
  · intro w task top sampled hreach htop hcls
    have hlt := hreach.worldOk.top_lt top htop
    have hreal : (w.context (w.span top).context).noop = false := by
      simpa [hcls] using cls_eq_noop_iff hreach hlt
    obtain ⟨snapshot, hsnapshot, hcontinues⟩ := thread_continues hreach sampled htop hreal
    refine ⟨snapshot, hsnapshot, fun actions w' task' wrapper w'' hrun hempty hcontinued => ?_⟩
    have hbody : w'' = (wrapper.enter env task' ⟨false, false⟩ true (some snapshot) w').1 := by
      rcases hcontinued with h | ⟨hown, h⟩
      · exact h
      · rw [h, RunnableWrapper.call, hown]
    rw [hbody]
    exact hcontinues w' task' wrapper ⟨actions, hrun⟩ hempty
  · intro w root tree hreach hlt hreal hrun c hc
    have hinit : ThreadTree.Inv env root ⟨w, [root], [], []⟩ := by
      refine ⟨hreach, hlt, fun c hc => ?_, fun a ha => absurd ha (by simp),
        .inl ⟨?_, rfl⟩⟩
      · obtain rfl := List.mem_singleton.mp hc
        exact ⟨hlt, hreal, rfl, .inl rfl⟩
      · exact fun c hc => List.mem_singleton.mp hc
    exact ((tree_inv hinit hrun).member c hc).2.2.1

/-- A request that starts a thread. -/
def startingActions : List ApiAction :=
  [.getContext 0 true,
    .newSpan 0 0 ⟨false, false⟩ (.newEntrySpan "/users" none none),
    .start 0 0]

theorem started_thread_continued :
    ∃ w tree root traceId, Reachable .sample w ∧
      Relation.ReflTransGen (ThreadTree.Step .sample) ⟨w, [0], [], []⟩ tree ∧
      tree.members = [1, 0] ∧ ContinuesThread .sample w 0 0 tree.world root traceId ∧
      (tree.world.context 1).traceId = (tree.world.context 0).traceId := by
  have hresult : ∃ w, Reachable .sample w ∧ (w.view 0).getLast? = some 0 ∧
      (w.span 0).cls ≠ .NoopSpan ∧ (w.span 0).context = 0 ∧ 0 < w.contexts.size ∧
      (w.context 0).noop = false ∧ (captureContext .sample 0 true w).1.view 1 = [] ∧
      (captureContext .sample 0 true w).1.contexts.size = 1 := by
    apply exists_reachable startingActions
    decide +kernel
  obtain ⟨w, hreach, htop, hcls, hcontext, hlt, hreal, hempty, hsize⟩ := hresult
  obtain ⟨hcontinues, htree⟩ := trace_continues_across_threads .sample
  obtain ⟨snapshot, hsnapshot, hthread⟩ := hcontinues w 0 0 true hreach htop hcls
  obtain ⟨root, traceId, -, hfollows, -⟩ :=
    hthread [] _ 1 ⟨"work", .Unknown, .Unknown, [], none⟩ _ (.nil _) hempty (.inl rfl)
  have hcapture : ThreadTree.Step .sample ⟨w, [0], [], []⟩ _ :=
    .capture _ 0 0 snapshot true _ htop (by simp [hcontext]) (Prod.ext rfl hsnapshot)
  have hwork : ThreadTree.Step .sample ⟨(captureContext .sample 0 true w).1, [0],
      [(w.span 0).context], [snapshot]⟩ _ :=
    .run _ 1 snapshot ⟨"work", .Unknown, .Unknown, [], none⟩ hempty List.mem_cons_self
  have hsteps := (Relation.ReflTransGen.single hcapture).tail hwork
  have hchild := (ledger_getContext_of_empty .sample true hempty).2.trans hsize
  refine ⟨w, _, root, traceId, hreach, hsteps, ?_, hfollows, ?_⟩
  · dsimp only
    rw [hchild]
  · exact htree w 0 _ hreach hlt hreal hsteps 1 (by dsimp only; rw [hchild]; simp)

end SkyWalking
