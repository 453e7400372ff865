import SkyWalking.Proof.Threads

/-!
# A wrapper whose span is suppressed

The wrapper hands its snapshot to the context that it fetched before it made the span. What that does to
the enclosing trace is decided by the snapshot alone: everything else that the wrapper touches is new.
-/

namespace SkyWalking

open World

variable {env : Env} {w w' w'' base : World}

/-- Between `w` and `w'` nothing changes that an object of `base` is asked for. -/
structure Unmoved (base w w' : World) : Prop where
  context : ∀ c < base.contexts.size,
    (w'.context c).segment.relatedTraces = (w.context c).segment.relatedTraces ∧
      (w'.context c).correlation = (w.context c).correlation
  refs : ∀ s < base.spans.size, (w'.span s).refs = (w.span s).refs
  dict : ∀ d < base.dicts.size, w'.dicts.get d = w.dicts.get d

namespace Unmoved

theorem refl (base w : World) : Unmoved base w w :=
  ⟨fun _ _ => ⟨rfl, rfl⟩, fun _ _ => rfl, fun _ _ => rfl⟩

theorem trans (h : Unmoved base w w') (h' : Unmoved base w' w'') : Unmoved base w w'' where
  context c hc :=
    ⟨(h'.context c hc).1.trans (h.context c hc).1, (h'.context c hc).2.trans (h.context c hc).2⟩
  refs s hs := (h'.refs s hs).trans (h.refs s hs)
  dict d hd := (h'.dict d hd).trans (h.dict d hd)

theorem of_steady (base : World) (h : Steady w w') : Unmoved base w w' where
  context c _ := ⟨(h.context c).2.2.1, (h.context c).2.2.2⟩
  refs s _ := (h.span s).1
  dict d _ := by rw [h.dicts]

/-- A noop span in a context of its own. -/
theorem newNoop (w : World) :
    Unmoved w w (Span.newNoop w.contexts.size (SpanContext.newNoop w).1).1 where
  context c hc := by
    simp [World.context, Span.newNoop, Span.alloc, SpanContext.newNoop,
      Store.get_alloc_of_lt _ _ hc]
  refs s hs := by
    simp [World.span, Span.newNoop, Span.alloc, SpanContext.newNoop, Store.get_alloc_of_lt _ _ hs]
  dict d hd := Store.get_alloc_of_lt _ _ hd

theorem capture (task self : Nat) (hsize : base.dicts.size ≤ w.dicts.size) :
    Unmoved base w (SpanContext.capture task self w).1 := by
  have hnew : ∀ (w' : World) (dict : Correlation) (snapshot : Snapshot),
      w'.contexts = w.contexts → w'.spans = w.spans → w'.dicts = w.dicts →
      Unmoved base w (SpanContext.newSnapshot snapshot dict w').1 := by
    intro w' dict snapshot hcontexts hspans hdicts
    refine ⟨fun c _ => ?_, fun s _ => ?_, fun d hd => ?_⟩
    · simp only [SpanContext.newSnapshot, World.context, hcontexts]
      exact ⟨trivial, trivial⟩
    · simp only [SpanContext.newSnapshot, World.span, hspans]
    · simp only [SpanContext.newSnapshot, hdicts]
      exact Store.get_alloc_of_lt _ _ (hd.trans_le hsize)
  unfold SpanContext.capture
  dsimp only
  split
  · exact hnew w _ _ rfl rfl rfl
  · split
    · refine ⟨fun c _ => ?_, fun s _ => ?_, fun d _ => ?_⟩
      · rw [World.context, spansGet_contexts]
        exact ⟨rfl, rfl⟩
      · rw [spansGet_span]
      · rw [spansGet_dicts]
    · exact hnew _ _ _ (spansGet_contexts w task) (spansGet_spans w task) (spansGet_dicts w task)

theorem isFromCurrent (task self : Nat) (snapshot : Snapshot)
    (hsize : base.dicts.size ≤ w.dicts.size) :
    Unmoved base w (SpanContext.isFromCurrent task self snapshot w).1 := by
  have hcapture := capture task self hsize
  unfold SpanContext.isFromCurrent
  split
  · exact refl base w
  · split <;> next heq =>
      rw [heq] at hcapture
      exact hcapture

end Unmoved

theorem continued_of_invalid (env : Env) {task self snapshot : Nat}
    (hreal : (w.context self).noop = false)
    (hinvalid : SpanContext.isValidSnapshot (w.snapshots.get snapshot) = false) :
    (SpanContext.continued env task self snapshot w).1 =
      (SpanContext.isFromCurrent task self (w.snapshots.get snapshot) w).1 := by
  unfold SpanContext.continued
  dsimp only
  rw [if_neg (by simp [hreal])]
  split
  · next heq => rw [heq]
  · next heq => rw [heq]
  · next heq =>
    rw [heq, if_neg (by simp [hinvalid])]

/-- A valid snapshot of another segment always relates the context. -/
theorem continued_of_valid (env : Env) {task self snapshot top : Nat}
    (hreal : (w.context self).noop = false) (htop : (w.view task).getLast? = some top)
    (hother : (w.snapshots.get snapshot).segmentId ≠
      some (w.context self).segment.segmentId.value)
    (hvalid : SpanContext.isValidSnapshot (w.snapshots.get snapshot) = true) :
    ∃ traceId : ID, traceId.cls = .ID ∧
      ((SpanContext.continued env task self snapshot w).1.context self).segment =
        (w.context self).segment.relate traceId := by
  have hparts := hvalid
  simp only [SpanContext.isValidSnapshot, Bool.and_eq_true] at hparts
  obtain ⟨segmentId, hid⟩ := Option.isSome_iff_exists.mp hparts.1.1
  obtain ⟨current, hcurrent⟩ := isFromCurrent_of_ne hreal htop hid fun heq => hother (heq ▸ hid)
  obtain ⟨ref, href⟩ : ∃ ref, SpanContext.buildRef env (w.snapshots.get snapshot) = .ok ref :=
    ⟨_, rfl⟩
  have hview : ({ w with
      dicts := w.dicts.alloc (w.dicts.get (w.context self).correlation)
      snapshots := w.snapshots.alloc current } : World).view task = w.view task := rfl
  have hcls := (keeps_idOf env ({ w with
      dicts := w.dicts.alloc (w.dicts.get (w.context self).correlation)
      snapshots := w.snapshots.alloc current }.modifySpan top (Span.addRef ref)) ref.traceId).2.2
  refine ⟨_, hcls, ?_⟩
  unfold SpanContext.continued
  dsimp only
  rw [if_neg (by simp [hreal]), hcurrent]
  dsimp only
  rw [if_pos hvalid, href]
  dsimp only
  rw [hview, htop]
  simp only [SpanContext.updateCorrelation, World.context, World.modifyContext,
    Store.get_modify_self, SpanContext.relate]
  unfold Span.idOf
  split <;> rfl

/-- Relating a segment shows: the generated id gives way, any other id gets company. -/
theorem relate_ne {segment : Segment} (hok : segment.TracesOk) {traceId : ID}
    (hcls : traceId.cls = .ID) : (segment.relate traceId).relatedTraces ≠ segment.relatedTraces := by
  obtain ⟨hne, -, halone⟩ := hok
  unfold Segment.relate
  split
  · next made rest hnew =>
    have hsingle := halone ⟨.NewID, made⟩ (by simp [hnew]) rfl
    intro hsame
    dsimp only at hsame
    rw [hsingle] at hsame
    simp only [List.dropLast_singleton, List.nil_append, List.cons.injEq, and_true] at hsame
    rw [hsame] at hcls
    cases hcls
  · intro hsame
    have hlength := congrArg List.length hsame
    simp at hlength

theorem steady_noteRaised (env : Env) (answers : BlockAnswers) (span : Nat)
    (raised : Option Raised) (w : World) : Steady w (noteRaised env answers span raised w) := by
  unfold noteRaised
  split
  · exact .modifySpan span fun _ => ⟨rfl, rfl⟩
  · exact .refl w

theorem newLocalSpan_suppressed (task : Nat) {top : Nat}
    (hreal : (w.context (w.span top).context).noop = false) {answers : BlockAnswers}
    (hanswers : answers.ignored = true ∨ answers.queueFull = true) (env : Env) (op : String) :
    SpanContext.newLocalSpan env task (w.span top).context answers.toAnswers op w =
      ((Span.newNoop w.contexts.size (SpanContext.newNoop w).1).1, .ok w.spans.size) := by
  have hignored : (answers.toAnswers.ignored || answers.toAnswers.queueFull) = true := by
    simpa [BlockAnswers.toAnswers] using hanswers
  unfold SpanContext.newLocalSpan SpanContext.ignoreCheck SpanContext.isIgnored
  rw [if_neg (by simp [hreal]), if_pos hignored]
  rfl

section Wrapper

variable {task top : Nat} (htop : (w.view task).getLast? = some top)
  (hreal : (w.context (w.span top).context).noop = false) {answers : BlockAnswers}
  (hanswers : answers.ignored = true ∨ answers.queueFull = true)

include htop hreal hanswers

/-- What the wrapper does besides continuing the snapshot is steady. -/
theorem run_suppressed (env : Env) (wrapper : RunnableWrapper) (snapshot : Option Nat)
    (raised : Option Raised) :
    Steady (RunnableWrapper.continuedIfAny env task (w.span top).context snapshot
        (Span.start task w.spans.size
          (Span.newNoop w.contexts.size (SpanContext.newNoop w).1).1)).1
      (wrapper.run env task answers snapshot raised w) := by
  have hget := getContext_top_eq env answers.sampled htop
  have hnew := newLocalSpan_suppressed task hreal hanswers env wrapper.op
  have hblock : openBlock env task answers (.newLocalSpan wrapper.op) w =
      (Span.start task w.spans.size
        (Span.newNoop w.contexts.size (SpanContext.newNoop w).1).1, .ok w.spans.size) := by
    unfold openBlock
    rw [hget]
    dsimp only [Call.run]
    rw [hnew]
  unfold RunnableWrapper.run RunnableWrapper.enter
  rw [hblock, hget]
  dsimp only
  rw [hnew]
  dsimp only
  generalize RunnableWrapper.continuedIfAny env task (w.span top).context snapshot
    (Span.start task w.spans.size
      (Span.newNoop w.contexts.size (SpanContext.newNoop w).1).1) = result
  obtain ⟨w₁, outcome⟩ := result
  have hleave : ∀ (raised : Option Raised) (w₂ : World), Steady w₂
      (Span.stop task w.spans.size answers.stopFull
        (noteRaised env answers w.spans.size raised w₂)).1 :=
    fun raised w₂ => (steady_noteRaised env answers _ raised w₂).trans (.stop task _ _ _)
  cases outcome with
  | error error => exact hleave _ w₁
  | ok _ => exact (steady_decorate wrapper w.spans.size w₁).trans (hleave _ _)

end Wrapper

theorem exists_top_start (hok : w.VarsOk) {task top : Nat} (htop : (w.view task).getLast? = some top)
    (s : Nat) : ∃ span, ((Span.start task s w).view task).getLast? = some span := by
  rw [view_start hok]
  split
  · unfold pushed
    split
    · exact ⟨top, htop⟩
    · exact ⟨s, List.getLast?_concat⟩
  · exact ⟨top, htop⟩

theorem Unmoved.leavesAlone (h : Unmoved w w w') (hok : WorldOk env w) {c : Nat}
    (hc : c < w.contexts.size) : LeavesAlone c w w' := by
  obtain ⟨htraces, hmap⟩ := h.context c hc
  refine ⟨htraces, fun s hs _ => h.refs s hs, ?_⟩
  rw [hmap]
  exact h.dict _ (hok.correlation_lt c hc)

/-- **Suppression.** Inside a real context, a wrapper with a suppressed span leaves the enclosing trace
alone exactly if it holds no snapshot or one that is not valid. -/
theorem suppressed_wrapper_leaves_alone_iff (env : Env) {w : World} (hreach : Reachable env w)
    {task top : Nat} (htop : (w.view task).getLast? = some top)
    (hreal : (w.context (w.span top).context).noop = false) {answers : BlockAnswers}
    (hanswers : answers.ignored = true ∨ answers.queueFull = true) (wrapper : RunnableWrapper)
    (snapshot : Option Nat) (raised : Option Raised)
    (hother : ∀ a ∈ snapshot, (w.snapshots.get a).segmentId ≠
      some (w.context (w.span top).context).segment.segmentId.value) :
    LeavesAlone (w.span top).context w (wrapper.run env task answers snapshot raised w) ↔
      ∀ a ∈ snapshot, SpanContext.isValidSnapshot (w.snapshots.get a) = false := by
  have hok := hreach.worldOk
  have hc := hok.span_context top (hok.top_lt top htop)
  have hrun := run_suppressed htop hreal hanswers env wrapper snapshot raised
  have hstart := Steady.start task w.spans.size
    (Span.newNoop w.contexts.size (SpanContext.newNoop w).1).1
  have hcontext : (Span.newNoop w.contexts.size (SpanContext.newNoop w).1).1.context
      (w.span top).context = w.context (w.span top).context :=
    Store.get_alloc_of_lt _ _ hc
  have hview := exists_top_start (w := (Span.newNoop w.contexts.size (SpanContext.newNoop w).1).1)
    hok.vars_lt htop w.spans.size
  have hunmoved := (Unmoved.newNoop w).trans (.of_steady w hstart)
  have hdicts : w.dicts.size ≤ (Span.start task w.spans.size
      (Span.newNoop w.contexts.size (SpanContext.newNoop w).1).1).dicts.size := by
    rw [hstart.dicts]
    exact Nat.le_succ _
  obtain ⟨hnoop, hid, htraces, -⟩ := hstart.context (w.span top).context
  rw [hcontext] at hnoop hid htraces
  have hsnapshots := hstart.snapshots
  generalize Span.start task w.spans.size
    (Span.newNoop w.contexts.size (SpanContext.newNoop w).1).1 = w₁ at *
  cases snapshot with
  | none =>
      constructor
      · intro _ a ha
        cases ha
      · intro _
        exact (hunmoved.trans (.of_steady w hrun)).leavesAlone hok hc
  | some a =>
      have hsnap : w₁.snapshots.get a = w.snapshots.get a := by
        rw [hsnapshots]
        rfl
      have hne := hother a rfl
      rw [← hsnap, ← hid] at hne
      constructor
      · intro h a' ha'
        obtain rfl : a = a' := Option.some.inj ha'
        by_contra hvalid
        rw [Bool.not_eq_false, ← hsnap] at hvalid
        obtain ⟨span, hspan⟩ := hview
        obtain ⟨traceId, hcls, hsegment⟩ :=
          continued_of_valid env (hnoop.trans hreal) hspan hne hvalid
        have hkept := ((hrun.context (w.span top).context).2.2.1).symm.trans h.traces
        rw [← htraces] at hkept
        have htracesOk : (w₁.context (w.span top).context).segment.TracesOk := by
          have hsegmentOk := hok.traces _ hc hreal
          simp only [Segment.TracesOk, htraces]
          exact hsegmentOk
        refine relate_ne htracesOk hcls ?_
        rw [← hsegment]
        exact hkept
      · intro hinvalid
        have hfalse := hinvalid a rfl
        rw [← hsnap] at hfalse
        have hcontinued := Unmoved.isFromCurrent task (w.span top).context (w₁.snapshots.get a) hdicts
        rw [← continued_of_invalid env (hnoop.trans hreal) hfalse] at hcontinued
        exact ((hunmoved.trans hcontinued).trans (.of_steady w hrun)).leavesAlone hok hc

/-- One thread captures its context, another one has opened a span of its own. -/
def helperActions : List ApiAction :=
  [.getContext 0 true, .newSpan 0 0 ⟨false, false⟩ (.newLocalSpan "submit"), .start 0 0,
    .capture 0 0, .thread 1, .getContext 1 true,
    .newSpan 1 1 ⟨false, false⟩ (.newLocalSpan "helper"), .start 1 1]

/-- Span 1 of the real context 1 is open in task 1, and snapshot 0 was taken in another segment. -/
def Helping (w : World) : Prop :=
  (w.view 1).getLast? = some 1 ∧ (w.span 1).context = 1 ∧ (w.context 1).noop = false ∧
    (w.snapshots.get 0).segmentId ≠ some (w.context 1).segment.segmentId.value ∧
    SpanContext.isValidSnapshot (w.snapshots.get 0) = true

instance : DecidablePred Helping := fun w =>
  inferInstanceAs (Decidable ((w.view 1).getLast? = some 1 ∧ (w.span 1).context = 1 ∧
    (w.context 1).noop = false ∧
    (w.snapshots.get 0).segmentId ≠ some (w.context 1).segment.segmentId.value ∧
    SpanContext.isValidSnapshot (w.snapshots.get 0) = true))

/-- A wrapper around an ignored operation. -/
def ignoredAnswers : BlockAnswers :=
  { sampled := true
    ignored := true
    queueFull := false
    stopFull := false
    traceback := "" }

def plainWrapper : RunnableWrapper :=
  { op := "task"
    layer := .Unknown
    component := .Unknown
    tags := []
    snapshot := none }

theorem exists_helping : ∃ w, Reachable .sample w ∧ Helping w := by
  apply exists_reachable helperActions
  decide +kernel

theorem helper_leaves_alone_iff : ∃ w, Reachable .sample w ∧ Helping w ∧
    (LeavesAlone 1 w (plainWrapper.run .sample 1 ignoredAnswers (some 0) none w) ↔
      ∀ a ∈ some 0, SpanContext.isValidSnapshot (w.snapshots.get a) = false) := by
  obtain ⟨w, hreach, hhelping⟩ := exists_helping
  refine ⟨w, hreach, hhelping, ?_⟩
  obtain ⟨htop, hcontext, hreal, hother, -⟩ := hhelping
  rw [← hcontext] at hreal hother
  have hanswers : ignoredAnswers.ignored = true ∨ ignoredAnswers.queueFull = true := .inl rfl
  have h := suppressed_wrapper_leaves_alone_iff .sample hreach htop hreal hanswers plainWrapper
    (some 0) none (fun a ha => Option.some.inj ha ▸ hother)
  rw [hcontext] at h
  exact h

/-- The helper's own trace is replaced by that of the snapshot. -/
theorem helper_loses_trace : ∃ w, Reachable .sample w ∧ Helping w ∧
    (w.context 1).segment.relatedTraces = [⟨.NewID, "aaaa"⟩] ∧
    ((plainWrapper.run .sample 1 ignoredAnswers (some 0) none w).context
      1).segment.relatedTraces = [⟨.ID, "aa"⟩] ∧
    ¬ LeavesAlone 1 w (plainWrapper.run .sample 1 ignoredAnswers (some 0) none w) := by
  have hresult : ∃ w, Reachable .sample w ∧ Helping w ∧
      (w.context 1).segment.relatedTraces = [⟨.NewID, "aaaa"⟩] ∧
      ((plainWrapper.run .sample 1 ignoredAnswers (some 0) none w).context
        1).segment.relatedTraces = [⟨.ID, "aa"⟩] := by
    apply exists_reachable helperActions
    decide +kernel
  obtain ⟨w, hreach, hhelping, hbefore, hafter⟩ := hresult
  refine ⟨w, hreach, hhelping, hbefore, hafter, fun h => ?_⟩
  have htraces := h.traces
  rw [hbefore, hafter] at htraces
  exact absurd htraces (by decide)

end SkyWalking
