import SkyWalking.Proof.Extraction

/-!
# Spans created under a finished parent
-/

namespace SkyWalking

open World

variable {env : Env} {w : World}

/-- The world in which `new_span` extracts from the finished parent. -/
def detached (env : Env) (cls : SpanClass) (op : String) (peer : Option String)
    (component : Option Component) (w : World) : World :=
  (Span.alloc (Span.create cls w.contexts.size 0 (-1) op peer component)
    ((SpanContext.new env w).1.modifyContext w.contexts.size SpanContext.nextSid)).1

section Detached

variable (env : Env) (w : World) (cls : SpanClass) (op : String) (peer : Option String)
  (component : Option Component)

theorem detached_span_new : (detached env cls op peer component w).span w.spans.size =
    Span.create cls w.contexts.size 0 (-1) op peer component := Store.get_alloc_size _ _

theorem detached_span_of_lt {s : Nat} (hs : s < w.spans.size) :
    (detached env cls op peer component w).span s = w.span s := Store.get_alloc_of_lt _ _ hs

theorem detached_context_of_lt {c : Nat} (hc : c < w.contexts.size) :
    (detached env cls op peer component w).context c = w.context c := by
  have hmodify : (detached env cls op peer component w).context c =
      (SpanContext.new env w).1.context c := Store.get_modify_of_ne _ _ hc.ne
  rw [hmodify]
  exact Store.get_alloc_of_lt _ _ hc

theorem detached_traces : ((detached env cls op peer component w).context
    w.contexts.size).segment.relatedTraces = [⟨.NewID, env.uuid1 (w.uuids + 1)⟩] := by
  simp [detached, Span.alloc, SpanContext.new, World.context, World.modifyContext,
    SpanContext.nextSid]

/-- The carrier names the parent as it was. -/
theorem carrierOf_detached {env : Env} {w : World} (hok : WorldOk env w) {parent : Nat} (hparent : parent < w.spans.size) :
    Span.carrierOf env parent (detached env cls op peer component w) =
      Span.carrierOf env parent w := by
  unfold Span.carrierOf
  dsimp only
  rw [detached_span_of_lt env w cls op peer component hparent,
    detached_context_of_lt env w cls op peer component (hok.span_context parent hparent)]

end Detached

section Carrier

variable (hok : WorldOk env w) {s : Nat} (hs : s < w.spans.size)
  (hreal : (w.context (w.span s).context).noop = false)

include hok hs hreal

theorem WorldOk.traceId_ne : ∃ traceId, (w.context (w.span s).context).traceId = some traceId ∧
    (Span.carrierOf env s w).traceId = traceId ∧ traceId ≠ "" := by
  obtain ⟨hne, hvalues, -⟩ := hok.traces _ (hok.span_context s hs) hreal
  cases htraces : (w.context (w.span s).context).segment.relatedTraces with
  | nil => exact absurd htraces hne
  | cons id rest =>
      refine ⟨id.value, ?_, ?_, hvalues id (by simp [htraces])⟩
      · simp [SpanContext.traceId, htraces]
      · simp [Span.carrierOf, htraces]

theorem WorldOk.segmentId_ne : (w.context (w.span s).context).segment.segmentId.value ≠ "" := by
  obtain ⟨k, -, hid⟩ := hok.segment_id _ (hok.span_context s hs) hreal
  rw [hid]
  exact env.uuid1_ne_empty k

/-- The carrier that names a real span is valid if nothing is missing in it. -/
theorem carrierOf_isValid (hsid : 0 ≤ (w.span s).sid) :
    (Span.carrierOf env s w).isValid = .ok true ↔ (w.span s).Referable env := by
  obtain ⟨traceId, -, htrace, hne⟩ := hok.traceId_ne hs hreal
  rw [Carrier.isValid_eq_ok_true, htrace]
  have hnumeric : (Span.carrierOf env s w).spanId.isnumeric = .ok true := by
    rw [show (Span.carrierOf env s w).spanId = .str (toString (w.span s).sid) from rfl,
      SpanId.isnumeric, Text.isnumeric_toString hsid]
  constructor
  · rintro ⟨-, -, hname, hinstance, hop, hpeer, -⟩
    obtain ⟨op, hop, hopNe⟩ := hop
    cases hop
    exact ⟨hname, hinstance, hopNe, hpeer⟩
  · rintro ⟨hname, hinstance, hop, hpeer⟩
    exact ⟨hne, hok.segmentId_ne hs hreal, hname, hinstance, ⟨_, rfl, hop⟩, hpeer, hnumeric⟩

end Carrier

theorem carrierOf_toInt (env : Env) {s : Nat} (hsid : 0 ≤ (w.span s).sid) :
    (Span.carrierOf env s w).spanId.toInt = .ok (w.span s).sid := by
  rw [show (Span.carrierOf env s w).spanId = .str (toString (w.span s).sid) from rfl,
    SpanId.toInt, Text.int?_toString hsid]

/-- `new_span` under a finished parent in a process that is in order: the new span, and what it took
over. The contexts that exist already are left alone. -/
theorem newSpan_finished_cases (hok : WorldOk env w) {parent : Nat}
    (hparent : parent < w.spans.size) (hreal : (w.context (w.span parent).context).noop = false)
    (hsid : 0 ≤ (w.span parent).sid) (hfinished : (w.span parent).depth = 0) (self : Nat)
    (cls : SpanClass) (op : String) (peer : Option String) (component : Option Component) :
    let result := SpanContext.newSpan env self (some parent) cls op peer component w
    (∀ c < w.contexts.size, result.1.context c = w.context c) ∧
      w.spans.size < result.1.spans.size ∧
      (result.1.span w.spans.size).context = w.contexts.size ∧
      ((w.span parent).Referable env ∧ result.2 = .ok w.spans.size ∧
          (result.1.context w.contexts.size).traceId = (w.context (w.span parent).context).traceId ∧
          (result.1.span w.spans.size).refs =
            [(Span.carrierOf env parent w).toRef "CrossProcess" (w.span parent).sid] ∨
        ¬ (w.span parent).Referable env ∧
          ∀ span, result.2 = .ok span → (result.1.span span).refs = []) := by
  obtain ⟨traceId, htrace, hcarrier, hne⟩ := hok.traceId_ne hparent hreal
  have hvalid := carrierOf_isValid hok hparent hreal hsid
  have hspan := detached_span_new env w cls op peer component
  have hcontext : ((detached env cls op peer component w).span w.spans.size).context =
      w.contexts.size := by rw [hspan]; rfl
  have hextracted : Extracted w.spans.size (Span.carrierOf env parent w)
      (detached env cls op peer component w) _ _ :=
    extractReal_of_new env (hcarrier ▸ hne) (by rw [hspan]; rfl)
      (by rw [hcontext]; exact detached_traces env w cls op peer component) (carrierOf_toInt env hsid)
  have heq : SpanContext.newSpan env self (some parent) cls op peer component w =
      ((Span.extractReal env w.spans.size (Span.carrierOf env parent w)
          (detached env cls op peer component w)).1,
        (Span.extractReal env w.spans.size (Span.carrierOf env parent w)
          (detached env cls op peer component w)).2.map fun _ => w.spans.size) := by
    rw [← carrierOf_detached cls op peer component hok hparent]
    exact newSpan_of_finished env w self cls op peer component hfinished
  rw [heq]
  generalize Span.extractReal env w.spans.size (Span.carrierOf env parent w)
    (detached env cls op peer component w) = result at hextracted ⊢
  obtain ⟨w', outcome⟩ := result
  dsimp only at hextracted ⊢
  refine ⟨fun c hc => ?_, hextracted.size ▸ Nat.lt_succ_self _,
    (hextracted.span_same _).2.trans hcontext, ?_⟩
  · rw [hextracted.other c (hcontext ▸ hc.ne), detached_context_of_lt env w cls op peer component hc]
  by_cases href : (w.span parent).Referable env
  · left
    obtain ⟨hok', hrefs⟩ := hextracted.valid (hvalid.mpr href) _ (carrierOf_toInt env hsid)
    have htraces := hextracted.traces
    rw [hcontext] at htraces
    refine ⟨href, by rw [hok']; rfl, ?_, hrefs⟩
    rw [htrace, SpanContext.traceId, htraces, hcarrier]
    rfl
  · right
    refine ⟨href, fun span hspan' => ?_⟩
    have hnew : span = w.spans.size := by
      cases outcome with
      | error error => cases hspan'
      | ok _ => exact (Except.ok.inj hspan').symm
    rw [hnew]
    exact hextracted.invalid (hvalid.not.mpr href)

/-- What a call adds to the outcome of `new_span` concerns neither contexts nor references. -/
structure SameSegments (result result' : World × Except PyError Nat) : Prop where
  outcome : result.2 = result'.2
  size : result.1.spans.size = result'.1.spans.size
  context : ∀ c, result.1.context c = result'.1.context c
  span : ∀ s, (result.1.span s).context = (result'.1.span s).context ∧
    (result.1.span s).refs = (result'.1.span s).refs

theorem SameSegments.rfl (result : World × Except PyError Nat) : SameSegments result result :=
  ⟨Eq.refl _, Eq.refl _, fun _ => Eq.refl _, fun _ => ⟨Eq.refl _, Eq.refl _⟩⟩

theorem spansGet_of_top {task parent : Nat} (htop : (w.view task).getLast? = some parent) :
    w.spansGet task = w := by
  cases hvar : w.vars task with
  | none => simp [World.view, hvar] at htop
  | some list => simp only [World.spansGet, hvar]

/-- A call that is neither ignored nor answered with the span on top of the stack goes through
`new_span`. -/
theorem Call.run_eq_newSpan (env : Env) (task : Nat) {self : Nat} (hreal : (w.context self).noop = false)
    {parent : Nat} (htop : (w.view task).getLast? = some parent) {call : Call}
    (hcarrier : call.carrier = none) (hreuse : ¬ call.AsksReuse (w.span parent))
    (hdefault : ¬ call.MeetsDefault (w.span parent)) :
    ∃ cls op peer component, SameSegments (call.run env task self ⟨false, false⟩ w)
      (SpanContext.newSpan env self (some parent) cls op peer component w) := by
  have hnoop : ¬ (w.context self).noop = true := by simp [hreal]
  have hignore : SpanContext.ignoreCheck ⟨false, false⟩ none w = (w, .ok none) := rfl
  cases call with
  | newLocalSpan op =>
      refine ⟨.Span, op, none, none, ?_⟩
      simp only [Call.run, SpanContext.newLocalSpan]
      rw [if_neg hnoop, hignore]
      simp only [SpanContext.peek, htop, spansGet_of_top htop]
      exact .rfl _
  | newEntrySpan op carrier inherit =>
      refine ⟨.EntrySpan, op, none, none, ?_⟩
      obtain rfl : carrier = none := hcarrier
      have hnew : ¬ SpanContext.reusesEntry (some parent) inherit w = true := by
        simpa [SpanContext.reusesEntry, Call.AsksReuse] using hreuse
      simp only [Call.run, SpanContext.newEntrySpan, Option.map_none]
      rw [if_neg hnoop, hignore]
      simp only [SpanContext.peek, htop, spansGet_of_top htop]
      rw [if_neg hnew]
      split <;> next heq => rw [heq]; exact .rfl _
  | newExitSpan op peer component inherit =>
      refine ⟨.ExitSpan, op, peer, component, ?_⟩
      have hnew : ¬ SpanContext.reusesExit (some parent) component w = true := by
        simp only [SpanContext.reusesExit, decide_eq_true_eq]
        rintro ⟨hkind, hcomponent⟩
        by_cases hunknown : (w.span parent).inherit = .Unknown
        · exact hdefault ⟨hkind, hunknown, hunknown ▸ hcomponent⟩
        · exact hreuse ⟨hkind, hunknown, hcomponent⟩
      simp only [Call.run, SpanContext.newExitSpan]
      rw [if_neg hnoop, hignore]
      simp only [SpanContext.peek, htop, spansGet_of_top htop]
      rw [if_neg hnew]
      generalize SpanContext.newSpan env self (some parent) .ExitSpan op peer component
        w = result
      obtain ⟨w', outcome⟩ := result
      cases outcome with
      | error error => exact .rfl _
      | ok span =>
          cases inherit with
          | none => exact .rfl _
          | some inherit =>
              refine ⟨Eq.refl _, Eq.refl _, fun _ => Eq.refl _, fun s => ?_⟩
              simp only [World.span, World.modifySpan, Store.get_modify]
              split <;> exact ⟨Eq.refl _, Eq.refl _⟩

/-- An exit call for `Component.Unknown` gets the finished exit span itself. -/
theorem Call.run_of_meetsDefault (env : Env) (task : Nat) {self : Nat} (hreal : (w.context self).noop = false)
    {parent : Nat} (htop : (w.view task).getLast? = some parent) {call : Call}
    (hdefault : call.MeetsDefault (w.span parent)) :
    (call.run env task self ⟨false, false⟩ w).2 = .ok parent ∧
      ((call.run env task self ⟨false, false⟩ w).1.span parent).context =
        (w.span parent).context := by
  have hnoop : ¬ (w.context self).noop = true := by simp [hreal]
  have hignore : SpanContext.ignoreCheck ⟨false, false⟩ none w = (w, .ok none) := rfl
  cases call with
  | newLocalSpan op => exact hdefault.elim
  | newEntrySpan op carrier inherit => exact hdefault.elim
  | newExitSpan op peer component inherit =>
      obtain ⟨hkind, hinherit, rfl⟩ := hdefault
      have hreused : SpanContext.reusesExit (some parent) (some .Unknown) w = true := by
        simp [SpanContext.reusesExit, hkind, hinherit]
      simp only [Call.run, SpanContext.newExitSpan]
      rw [if_neg hnoop, hignore]
      simp only [SpanContext.peek, htop, spansGet_of_top htop]
      rw [if_pos hreused]
      cases inherit <;> simp [World.span, World.modifySpan]

/-- **A span under a finished parent keeps the trace**, exactly if the carrier that is made of the
parent is valid and the call is not answered with the finished span itself. -/
theorem finished_parent_keeps_trace (env : Env) {w : World} (hreach : Reachable env w)
    (task : Nat) {self : Nat} (hself : self < w.contexts.size)
    (hreal : (w.context self).noop = false) {parent : Nat}
    (htop : (w.view task).getLast? = some parent) (hparent : (w.span parent).cls ≠ .NoopSpan)
    (hfinished : (w.span parent).depth = 0) {call : Call} (hcarrier : call.carrier = none)
    (hreuse : ¬ call.AsksReuse (w.span parent)) :
    (∃ span, (call.run env task self ⟨false, false⟩ w).2 = .ok span ∧
        Follows env parent w (call.run env task self ⟨false, false⟩ w).1 span) ↔
      (w.span parent).Referable env ∧ ¬ call.MeetsDefault (w.span parent) := by
  have hok := hreach.worldOk
  have hlt : parent < w.spans.size := hok.top_lt parent htop
  have hcontext := hok.span_context parent hlt
  have hparentReal : (w.context (w.span parent).context).noop = false := by
    have hnoop := hreach.inv.noop_eq parent hlt
    simpa [Span.toLedger, SpanContext.toLedger, hparent] using hnoop.symm
  have hsid : 0 ≤ (w.span parent).sid :=
    hreach.inv.sid_nonneg parent hlt (by simp [Span.toLedger, hparent])
  by_cases hdefault : call.MeetsDefault (w.span parent)
  · obtain ⟨houtcome, hspan⟩ := Call.run_of_meetsDefault env task hreal htop hdefault
    refine ⟨?_, fun h => absurd hdefault h.2⟩
    rintro ⟨span, hresult, hfollows⟩
    rw [houtcome, Except.ok.injEq] at hresult
    have hfresh := hfollows.fresh
    rw [← hresult, hspan] at hfresh
    omega
  have hkeeps : Keeps env w (call.run env task self ⟨false, false⟩ w).1 :=
    keeps_call task hself _ (by simp [hcarrier])
  obtain ⟨cls, op, peer, component, hsame⟩ :=
    Call.run_eq_newSpan env task hreal htop hcarrier hreuse hdefault
  obtain ⟨hcontexts, hsize, hcreated, hcases⟩ := newSpan_finished_cases hok hlt hparentReal hsid hfinished
    self cls op peer component
  generalize call.run env task self ⟨false, false⟩ w = result at hkeeps hsame ⊢
  generalize SpanContext.newSpan env self (some parent) cls op peer component w = result'
    at hsame hcontexts hsize hcreated hcases
  obtain ⟨w', outcome⟩ := result
  dsimp only at hkeeps ⊢
  have hspanContext : (w'.span w.spans.size).context = w.contexts.size :=
    (hsame.span _).1.trans hcreated
  rcases hcases with ⟨href, houtcome, htrace, hrefs⟩ | ⟨href, hnone⟩
  · refine ⟨fun _ => ⟨href, hdefault⟩, fun _ => ⟨w.spans.size, hsame.outcome.trans houtcome, ?_⟩⟩
    rw [← hsame.size] at hsize
    refine ⟨hspanContext.ge, ?_, ⟨_, (hsame.span _).2.trans hrefs, rfl, rfl⟩, ?_, ?_⟩
    · rw [hspanContext, hsame.context]
      exact htrace
    · rw [hsame.context, hcontexts _ hcontext]
    · intro task' queueFull actions w'' hrun
      have hkept := (keeps_run hrun (hkeeps hok).1).2.span_same _ hsize
      have hne : (w.span parent).context ≠ (w''.span w.spans.size).context := by
        rw [hkept.2, hspanContext]
        exact hcontext.ne
      exact ⟨segment_spans_start task' _ _ w'', segment_spans_stop_of_ne task' queueFull w'' hne⟩
  · refine ⟨?_, fun h => absurd h.1 href⟩
    rintro ⟨span, hresult, hfollows⟩
    obtain ⟨ref, hone, -⟩ := hfollows.ref
    rw [(hsame.span span).2, hnone span (hsame.outcome.symm.trans hresult)] at hone
    cases hone

/-- Task 1 is created inside a block of task 0 that closes at once: it finds the finished span on its
stack. -/
def outlivedActions (call : Call) : List ApiAction :=
  [.getContext 0 true,
    .newSpan 0 0 ⟨false, false⟩ call,
    .start 0 0,
    .spawn 0 1,
    .stop 0 0 false]

/-- The situation after `outlivedActions`. -/
def Outlived (w : World) : Prop :=
  (w.view 1).getLast? = some 0 ∧ (w.span 0).cls ≠ .NoopSpan ∧ (w.span 0).depth = 0 ∧
    (w.span 0).context = 0 ∧ 0 < w.contexts.size ∧ (w.context 0).noop = false ∧
    0 ∈ (w.context 0).segment.spans ∧ 0 ∈ w.archived

instance (w : World) : Decidable (Outlived w) :=
  inferInstanceAs (Decidable ((w.view 1).getLast? = some 0 ∧ (w.span 0).cls ≠ .NoopSpan ∧
    (w.span 0).depth = 0 ∧ (w.span 0).context = 0 ∧ 0 < w.contexts.size ∧
    (w.context 0).noop = false ∧ 0 ∈ (w.context 0).segment.spans ∧ 0 ∈ w.archived))

/-- The world that an executed run ends in, with what a test finds there. -/
theorem exists_reachable {env : Env} (actions : List ApiAction) {P : World → Prop} [DecidablePred P]
    (h : (runActions env (fun _ _ => True) .init actions).any (fun w => decide (P w)) = true) :
    ∃ w, Reachable env w ∧ P w := by
  obtain ⟨w, hw, htest⟩ := (Option.any_eq_true _ _).mp h
  have hrun := (run_of_runActions _ _ _ hw).mono fun _ _ _ hstep => hstep.2
  exact ⟨w, ⟨actions, hrun⟩, of_decide_eq_true htest⟩

theorem exit_parent_keeps_trace :
    ∃ w, Reachable .sample w ∧ Outlived w ∧ ∃ span,
      ((Call.newLocalSpan "child").run .sample 1 0 ⟨false, false⟩ w).2 = .ok span ∧
        Follows .sample 0 w ((Call.newLocalSpan "child").run .sample 1 0 ⟨false, false⟩ w).1 span := by
  have hresult : ∃ w, Reachable .sample w ∧ Outlived w ∧ (w.span 0).op = "/download" ∧
      (w.span 0).peer = some "localhost:8080" := by
    apply exists_reachable
      (outlivedActions (.newExitSpan "/download" (some "localhost:8080") none none))
    decide +kernel
  obtain ⟨w, hreach, houtlived, hop, hpeer⟩ := hresult
  refine ⟨w, hreach, houtlived, ?_⟩
  obtain ⟨htop, hcls, hdepth, -, hsize, hnoop, -, -⟩ := houtlived
  refine (finished_parent_keeps_trace .sample hreach 1 hsize hnoop htop hcls hdepth rfl id).mpr
    ⟨⟨by decide, by decide, by rw [hop]; decide, _, hpeer, by decide⟩, id⟩

/-- A local span has no peer: the call raises a `TypeError`. -/
theorem local_parent_raises :
    ∃ w, Reachable .sample w ∧ Outlived w ∧
      ¬ (Call.newLocalSpan "child").AsksReuse (w.span 0) ∧
      ((Call.newLocalSpan "child").run .sample 1 0 ⟨false, false⟩ w).2 = .error .typeError ∧
      ¬ ∃ span, ((Call.newLocalSpan "child").run .sample 1 0 ⟨false, false⟩ w).2 = .ok span ∧
        Follows .sample 0 w ((Call.newLocalSpan "child").run .sample 1 0 ⟨false, false⟩ w).1 span := by
  have hresult : ∃ w, Reachable .sample w ∧ Outlived w ∧
      ((Call.newLocalSpan "child").run .sample 1 0 ⟨false, false⟩ w).2 = .error .typeError := by
    apply exists_reachable (outlivedActions (.newLocalSpan "parent"))
    decide +kernel
  obtain ⟨w, hreach, houtlived, hraised⟩ := hresult
  refine ⟨w, hreach, houtlived, id, hraised, ?_⟩
  rintro ⟨span, hspan, -⟩
  rw [hraised] at hspan
  cases hspan

end SkyWalking
