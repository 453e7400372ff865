import Mathlib.Logic.Relation
import SkyWalking.Proof.FinishedParent

/-!
# Chains of requests
-/

namespace SkyWalking

open World

variable {env env' : Env} {w w' : World}

theorem not_mem_dash_toString {number : Int} (h : 0 ≤ number) : '-' ∉ (toString number).toList := by
  rw [Text.toString_of_nonneg h]
  intro hmem
  exact absurd (Text.isDigit_of_mem_repr '-' hmem) (by decide)

/-- A carrier as it is in the process that receives it. -/
def Carrier.readBack (carrier : Carrier) (sw8 : String) (correlation : Nat) : Carrier :=
  { carrier with
    val := some sw8
    correlation := correlation }

/-- The headers of an exit span without gaps, and what a new carrier reads from them. -/
theorem headers_of_exit (hok : WorldOk env w) {span : Nat} (hsid : 0 ≤ (w.span span).sid)
    (hsend : Sendable env env' w span) :
    ∃ headers, Span.headers env span w = .ok headers ∧
      (∀ correlation, (Carrier.fresh correlation).setVal headers.sw8 =
        ((Span.carrierOf env span w).readBack headers.sw8 correlation, .ok ())) ∧
      Correlation.setVal env' [] headers.correlation =
        (w.dicts.get (w.context (w.span span).context).correlation, .ok ()) := by
  obtain ⟨-, -, -, peer, hpeer, -⟩ := hsend.referable
  obtain ⟨val, hval, hread⟩ := Carrier.setVal_getVal (Span.carrierOf env span w) rfl (not_mem_dash_toString hsid) rfl hpeer
  refine ⟨⟨val, (w.dicts.get (w.context (w.span span).context).correlation).getVal⟩, ?_, hread,
    Correlation.setVal_getVal env' (hok.keys _) hsend.room⟩
  simp only [Span.headers, Span.inject, hsend.cls, Store.get_alloc_size, hval]
  rfl

theorem headers_of_noop {span : Nat} (hnoop : (w.span span).cls = .NoopSpan) :
    Span.headers env span w = .ok ⟨"1-------", ""⟩ := by
  simp only [Span.headers, Span.inject, hnoop, Store.get_alloc_size, Carrier.fresh]
  rfl

theorem spansGet_dicts (w : World) (task : Nat) : (w.spansGet task).dicts = w.dicts := by
  unfold spansGet
  split <;> rfl

theorem spansGet_uuids (w : World) (task : Nat) : (w.spansGet task).uuids = w.uuids := by
  unfold spansGet
  split <;> rfl

theorem spansGet_snapshots (w : World) (task : Nat) :
    (w.spansGet task).snapshots = w.snapshots := by
  unfold spansGet
  split <;> rfl

/-- The world after a carrier was received. -/
def received (dict : Correlation) (carrier : Carrier) (w : World) : World :=
  { w with
    dicts := w.dicts.alloc dict
    carriers := w.carriers.alloc carrier }

theorem receiveCarrier_eq {sw8 correlation : String} {dict : Correlation} {carrier : Carrier}
    (hdict : Correlation.setVal env [] correlation = (dict, .ok ()))
    (hcarrier : (Carrier.fresh w.dicts.size).setVal sw8 = (carrier, .ok ())) :
    receiveCarrier env sw8 correlation w = (received dict carrier w, .ok w.carriers.size) := by
  unfold receiveCarrier
  rw [hdict]
  dsimp only
  rw [hcarrier]
  rfl

/-- `get_context()` has made a sampled context in a task without spans. -/
structure RootContext (env : Env) (task : Nat) (w w' : World) (context : Nat) : Prop where
  view : w'.view task = []
  var : w'.spansGet task = w'
  noop : (w'.context context).noop = false
  traces : ∃ made, (w'.context context).segment.relatedTraces = [⟨.NewID, made⟩]
  segment_id : (w'.context context).segment.segmentId.value = env.uuid1 w.uuids
  correlation : (w'.context context).correlation = w.dicts.size
  size : context = w.contexts.size
  spans : w'.spans = w.spans
  dicts : w'.dicts = w.dicts.alloc []
  carriers : w'.carriers = w.carriers
  snapshots : w'.snapshots = w.snapshots

theorem getContext_of_empty (hok : WorldOk env w) {task : Nat} (hempty : w.view task = []) :
    RootContext env task w (getContext env task true w).1 (getContext env task true w).2 := by
  have hvars : w.VarsOk := hok.vars_lt
  have hnew : getContext env task true w = SpanContext.new env (w.spansGet task) := by
    simp [getContext, hempty]
  have hcontexts := spansGet_contexts w task
  have hview : (w.spansGet task).view task = [] := (view_spansGet hvars task task).trans hempty
  rw [hnew]
  refine ⟨hview, ?_, ?_, ⟨env.uuid1 ((w.spansGet task).uuids + 1), ?_⟩, ?_, ?_, ?_, ?_, ?_, ?_, ?_⟩
  · cases hvar : w.vars task with
    | none => simp [SpanContext.new, World.spansGet, hvar, World.bindList]
    | some list => simp [SpanContext.new, World.spansGet, hvar]
  · simp [SpanContext.new, World.context]
  · simp [SpanContext.new, World.context]
  · simp [SpanContext.new, World.context, spansGet_uuids]
  · simp [SpanContext.new, World.context, spansGet_dicts]
  · simp [SpanContext.new, hcontexts]
  · exact spansGet_spans w task
  · simp [SpanContext.new, spansGet_dicts]
  · exact spansGet_carriers w task
  · exact spansGet_snapshots w task

/-- The world in which the first span of a context is there and nothing was extracted yet. -/
def rooted (cls : SpanClass) (self : Nat) (op : String) (w : World) : World :=
  { w with
    contexts := w.contexts.modify self SpanContext.nextSid
    spans := w.spans.alloc (Span.create cls self ((w.context self).sid + 1) (-1) op none none) }

theorem newSpan_of_root (self : Nat) (cls : SpanClass) (op : String) :
    SpanContext.newSpan env self none cls op none none w =
      (rooted cls self op w, .ok w.spans.size) :=
  newSpan_of_not_finished env w self none cls op none none rfl

theorem newEntrySpan_of_root {task self : Nat} (hreal : (w.context self).noop = false)
    (hempty : w.view task = []) (hvar : w.spansGet task = w) (op : String) {a : Nat}
    (hvalid : (w.carriers.get a).isValid = .ok true) :
    SpanContext.newEntrySpan env task self ⟨false, false⟩ op (some a) none w =
      ((Span.extractReal env w.spans.size (w.carriers.get a) (rooted .EntrySpan self op w)).1,
        (Span.extractReal env w.spans.size (w.carriers.get a) (rooted .EntrySpan self op w)).2.map
          fun _ => w.spans.size) := by
  have hnoop : ¬ (w.context self).noop = true := by simp [hreal]
  have hsuppressed : (w.carriers.get a).isSuppressed = .ok false := by
    unfold Carrier.isSuppressed
    split
    · rfl
    · split
      · rfl
      · rw [hvalid]
        rfl
  have hignore : SpanContext.ignoreCheck ⟨false, false⟩ (some (w.carriers.get a)) w =
      (w, .ok none) := by
    simp [SpanContext.ignoreCheck, SpanContext.isIgnored, hsuppressed]
  have hvalid' : ((rooted .EntrySpan self op w).carriers.get a).isValid = .ok true := hvalid
  unfold SpanContext.newEntrySpan
  rw [if_neg hnoop, Option.map_some, hignore]
  simp only [SpanContext.peek, hempty, List.getLast?_nil, SpanContext.reusesEntry, hvar,
    newSpan_of_root, Bool.false_eq_true, if_false, hvalid']
  rfl

theorem rooted_span_new (w : World) (cls : SpanClass) (self : Nat) (op : String) :
    (rooted cls self op w).span w.spans.size =
      Span.create cls self ((w.context self).sid + 1) (-1) op none none := Store.get_alloc_size _ _

theorem rooted_context (w : World) (cls : SpanClass) (self : Nat) (op : String) :
    (rooted cls self op w).context self = (w.context self).nextSid := Store.get_modify_self _ _ _

/-- What the first span of a task has of the valid carrier that it was opened with. -/
structure Opens (carrier : Carrier) (spanId : Int) (w w' : World) (entry : Nat) : Prop where
  cls : (w'.span entry).cls = .EntrySpan
  context_eq : (w'.span entry).context = w.contexts.size
  traces : (w'.context (w'.span entry).context).segment.relatedTraces = [⟨.ID, carrier.traceId⟩]
  refs : (w'.span entry).refs = [carrier.toRef "CrossProcess" spanId]
  correlation : (w'.context (w'.span entry).context).correlation = carrier.correlation
  dicts : w'.dicts = w.dicts.alloc []

theorem newEntrySpan_opens (env : Env) {task context : Nat} (hroot : RootContext env task w w' context)
    (op : String) {a : Nat} {carrier : Carrier} (hcarrier : w'.carriers.get a = carrier)
    (hvalid : carrier.isValid = .ok true) {spanId : Int}
    (hnumber : carrier.spanId.toInt = .ok spanId) :
    let result := SpanContext.newEntrySpan env task context ⟨false, false⟩ op (some a) none w'
    result.2 = .ok w.spans.size ∧ Opens carrier spanId w result.1 w.spans.size := by
  subst hcarrier
  obtain ⟨made, hmade⟩ := hroot.traces
  have hcreated := rooted_span_new w' .EntrySpan context op
  have hcontext : ((rooted .EntrySpan context op w').span w'.spans.size).context = context := by
    rw [hcreated]
    rfl
  have hextracted : Extracted w'.spans.size (w'.carriers.get a)
      (rooted .EntrySpan context op w') _ _ :=
    extractReal_of_new env (Carrier.isValid_eq_ok_true.mp hvalid).1 (by rw [hcreated]; rfl)
      (by rw [hcontext, rooted_context]; exact hmade) hnumber
  rw [newEntrySpan_of_root hroot.noop hroot.view hroot.var op hvalid, ← hroot.spans]
  generalize Span.extractReal env w'.spans.size (w'.carriers.get a)
    (rooted .EntrySpan context op w') = result at hextracted ⊢
  obtain ⟨w'', outcome⟩ := result
  dsimp only at hextracted ⊢
  obtain ⟨houtcome, hrefs⟩ := hextracted.valid hvalid _ hnumber
  obtain ⟨hcls, hcontext'⟩ := hextracted.span_same w'.spans.size
  have htraces := hextracted.traces
  have hcorrelation := hextracted.correlation
  rw [← hcontext'] at htraces hcorrelation
  refine ⟨by rw [houtcome]; rfl, ?_, hcontext'.trans (hcontext.trans hroot.size), htraces, hrefs,
    hcorrelation, ?_⟩
  · rw [hcls, hcreated]
    rfl
  · rw [hextracted.dicts]
    exact hroot.dicts

/-- The next service opens an entry span that continues the trace of the exit span. -/
theorem serve_of_exit (hok : WorldOk env w) {span : Nat} (hspan : span < w.spans.size)
    (hreal : (w.context (w.span span).context).noop = false) (hsid : 0 ≤ (w.span span).sid)
    (hsend : Sendable env env' w span) (hok' : WorldOk env' w') {task : Nat}
    (hempty : w'.view task = []) (op : String) :
    ∃ headers traceId, Span.headers env span w = .ok headers ∧
      (serve env' task ⟨false, false⟩ true op headers w').2 = .ok w'.spans.size ∧
      ((serve env' task ⟨false, false⟩ true op headers w').1.span w'.spans.size).context =
        w'.contexts.size ∧
      Continues env w span (serve env' task ⟨false, false⟩ true op headers w').1 w'.spans.size
        traceId := by
  obtain ⟨traceId, htrace, hcarrierTrace, hne⟩ := hok.traceId_ne hspan hreal
  obtain ⟨headers, hheaders, hread, hcorrelation⟩ := headers_of_exit hok hsid hsend
  refine ⟨headers, traceId, hheaders, ?_⟩
  have hreceived : receiveCarrier env' headers.sw8 headers.correlation w' = _ :=
    receiveCarrier_eq hcorrelation (hread _)
  have hok₁ := (keeps_receive headers.sw8 headers.correlation hok').1
  unfold serve
  rw [hreceived] at hok₁ ⊢
  dsimp only at hok₁ ⊢
  have hempty₁ : (received (w.dicts.get (w.context (w.span span).context).correlation)
      ((Span.carrierOf env span w).readBack headers.sw8 w'.dicts.size) w').view task = [] := hempty
  have hroot := getContext_of_empty hok₁ hempty₁
  generalize getContext env' task true _ = result at hroot ⊢
  obtain ⟨w₂, context⟩ := result
  dsimp only at hroot ⊢
  have hcarrier : w₂.carriers.get w'.carriers.size =
      (Span.carrierOf env span w).readBack headers.sw8 w'.dicts.size := by
    rw [hroot.carriers]
    exact Store.get_alloc_size _ _
  have hvalid : ((Span.carrierOf env span w).readBack headers.sw8 w'.dicts.size).isValid =
      .ok true := (carrierOf_isValid hok hspan hreal hsid).mpr hsend.referable
  have hnumber : ((Span.carrierOf env span w).readBack headers.sw8 w'.dicts.size).spanId.toInt =
      .ok (w.span span).sid := carrierOf_toInt env hsid
  obtain ⟨houtcome, hopens⟩ := newEntrySpan_opens env' hroot op hcarrier hvalid hnumber
  refine ⟨houtcome, hopens.context_eq, hopens.cls, htrace, ?_, ?_, ?_⟩
  · rw [← hcarrierTrace]
    exact hopens.traces
  · rw [← hcarrierTrace]
    exact hopens.refs
  · have hdict : ∀ dict, (((w'.dicts.alloc dict).alloc []).get w'.dicts.size) = dict := by
      intro dict
      rw [Store.get_alloc_of_lt _ _ (Nat.lt_succ_self _), Store.get_alloc_size]
    refine (congrArg _ hopens.correlation).trans ?_
    rw [hopens.dicts]
    exact hdict _

/-- A carrier that was made from the headers of a noop span suppresses the entry span. -/
theorem newEntrySpan_of_suppressed (env : Env) (task self : Nat) (answers : Answers) (op : String)
    {a : Nat} (hsuppressed : (w.carriers.get a).isSuppressed = .ok true) :
    let result := SpanContext.newEntrySpan env task self answers op (some a) none w
    ∃ span, result.2 = .ok span ∧ (result.1.span span).cls = .NoopSpan := by
  have hnew : ∀ c (w' : World), ((Span.newNoop c w').1.span w'.spans.size).cls = .NoopSpan := by
    intro c w'
    simp [Span.newNoop, Span.alloc, World.span, Span.create]
  have hignored : SpanContext.isIgnored answers (some (w.carriers.get a)) = .ok true := by
    unfold SpanContext.isIgnored
    split
    · rfl
    · exact hsuppressed
  unfold SpanContext.newEntrySpan
  split
  · exact ⟨_, rfl, hnew _ _⟩
  · simp only [Option.map_some, SpanContext.ignoreCheck, hignored]
    exact ⟨_, rfl, hnew _ _⟩

theorem getContext_carriers (env : Env) (task : Nat) (sampled : Bool) (w : World) :
    (getContext env task sampled w).1.carriers = w.carriers := by
  unfold getContext
  dsimp only
  split
  · exact spansGet_carriers w task
  · split
    · exact spansGet_carriers w task
    · exact spansGet_carriers w task

theorem serve_of_noop (env : Env) (task : Nat) (answers : Answers) (sampled : Bool) (op : String)
    (w : World) :
    let result := serve env task answers sampled op ⟨"1-------", ""⟩ w
    ∃ span, result.2 = .ok span ∧ (result.1.span span).cls = .NoopSpan := by
  have hread : (Carrier.fresh w.dicts.size).setVal "1-------" =
      ((Carrier.fresh w.dicts.size).readBack "1-------" w.dicts.size, .ok ()) := by
    obtain ⟨val, hval, hread⟩ := Carrier.setVal_getVal (Carrier.fresh w.dicts.size) rfl (by simp)
      rfl rfl
    obtain rfl : "1-------" = val := Except.ok.inj hval
    exact hread _
  have hreceived : receiveCarrier env "1-------" "" w = _ := receiveCarrier_eq rfl hread
  unfold serve
  rw [hreceived]
  dsimp only
  apply newEntrySpan_of_suppressed
  rw [getContext_carriers, received, Store.get_alloc_size]
  rfl

theorem Reachable.step (hreach : Reachable env w) (action : ApiAction)
    (henabled : action.Enabled w) : Reachable env (action.run env w) := by
  obtain ⟨actions, hrun⟩ := hreach
  exact ⟨_, hrun.snoc ⟨henabled, rfl⟩⟩

theorem Reachable.run (hreach : Reachable env w) {actions : List ApiAction}
    (hrun : Run (ApiStep env) w actions w') : Reachable env w' := by
  obtain ⟨actions', hrun'⟩ := hreach
  exact ⟨_, hrun'.append hrun⟩

theorem getContext_lt (hok : WorldOk env w) (task : Nat) (sampled : Bool) :
    (getContext env task sampled w).2 < (getContext env task sampled w).1.contexts.size := by
  have hsize := spansGet_contexts w task
  unfold getContext
  dsimp only
  split
  · next top htop =>
    rw [hsize]
    exact hok.span_context top (hok.top_lt top htop)
  · split
    · exact Nat.lt_succ_self _
    · exact Nat.lt_succ_self _

theorem receiveCarrier_lt {sw8 correlation : String} {a : Nat}
    (h : (receiveCarrier env sw8 correlation w).2 = .ok a) :
    a < (receiveCarrier env sw8 correlation w).1.carriers.size := by
  have hsize : (receiveCarrier env sw8 correlation w).1.carriers.size = w.carriers.size + 1 := rfl
  have haddress : ∀ outcome : Except PyError Unit,
      (outcome.map fun _ => w.carriers.size) = .ok a → a = w.carriers.size := by
    intro outcome houtcome
    cases outcome with
    | error error => cases houtcome
    | ok _ => exact (Except.ok.inj houtcome).symm
  rw [hsize, haddress _ h]
  exact Nat.lt_succ_self _

theorem Reachable.serve (hreach : Reachable env w) (task : Nat) (answers : Answers) (sampled : Bool)
    (op : String) (headers : Headers) :
    Reachable env (serve env task answers sampled op headers w).1 := by
  have hreceived : Reachable env (receiveCarrier env headers.sw8 headers.correlation w).1 :=
    hreach.step (.receive headers.sw8 headers.correlation) trivial
  have hlt : ∀ a, (receiveCarrier env headers.sw8 headers.correlation w).2 = .ok a → _ :=
    fun a => receiveCarrier_lt
  unfold SkyWalking.serve
  generalize receiveCarrier env headers.sw8 headers.correlation w = result at hreceived hlt
  obtain ⟨w₁, outcome⟩ := result
  cases outcome with
  | error error => exact hreceived
  | ok a =>
      have hcontext : Reachable env (getContext env task sampled w₁).1 :=
        hreceived.step (.getContext task sampled) trivial
      refine hcontext.step (.newSpan task _ answers (.newEntrySpan op (some a) none))
        ⟨getContext_lt hreceived.worldOk task sampled, ?_⟩
      intro b hb
      obtain rfl : a = b := Option.some.inj hb
      rw [getContext_carriers]
      exact hlt a rfl

theorem cls_eq_noop_iff (hreach : Reachable env w) {s : Nat} (hs : s < w.spans.size) :
    (w.span s).cls = .NoopSpan ↔ (w.context (w.span s).context).noop = true := by
  have hnoop := hreach.inv.noop_eq s hs
  simp only [ledger_span, ledger_context, Span.toLedger, SpanContext.toLedger] at hnoop
  rw [← hnoop, decide_eq_true_eq]

theorem Call.Effect.span_lt {task self : Nat} {call : Call} {outcome : Except PyError Nat}
    (heffect : Call.Effect task self call w w' outcome) (hok : WorldOk env w) {span : Nat}
    (hspan : outcome = .ok span) : span < w'.spans.size := by
  have hsize : w'.spans.size = w'.ledger.spans.size := rfl
  have hnew : ∀ l : Ledger, w'.ledger = l → l.spans.size = w.spans.size + 1 → span = w.spans.size →
      span < w'.spans.size := by
    intro l hl hlsize hspan'
    rw [hsize, hl, hlsize, hspan']
    exact Nat.lt_succ_self _
  cases heffect with
  | noop _ hledger => exact hnew _ hledger rfl (Except.ok.inj hspan).symm
  | suppressed _ hledger => exact hnew _ hledger rfl (Except.ok.inj hspan).symm
  | failed error _ => cases hspan
  | reused top _ htop _ hledger =>
      rw [hsize, hledger, ← Except.ok.inj hspan]
      exact hok.top_lt top htop
  | created _ _ hledger houtcome => exact hnew _ hledger rfl (houtcome span hspan)
  | detached top _ _ _ hledger houtcome => exact hnew _ hledger rfl (houtcome span hspan)

theorem serve_span_lt (hreach : Reachable env w) {task : Nat} {answers : Answers} {sampled : Bool}
    {op : String} {headers : Headers} {entry : Nat}
    (h : serve env task answers sampled op headers w = (w', .ok entry)) :
    entry < w'.spans.size := by
  have hreceived : Reachable env (receiveCarrier env headers.sw8 headers.correlation w).1 :=
    hreach.step (.receive headers.sw8 headers.correlation) trivial
  unfold serve at h
  generalize receiveCarrier env headers.sw8 headers.correlation w = result at hreceived h
  obtain ⟨w₁, outcome⟩ := result
  cases outcome with
  | error error => cases h
  | ok a =>
      have hcontext := hreceived.step (.getContext task sampled) trivial
      have heffect := Call.run_effect env task (getContext env task sampled w₁).2 answers
        (getContext env task sampled w₁).1 (.newEntrySpan op (some a) none)
      have hresult : Call.run env task (getContext env task sampled w₁).2 answers
          (getContext env task sampled w₁).1 (.newEntrySpan op (some a) none) = (w', .ok entry) := h
      rw [hresult] at heffect
      exact heffect.span_lt hcontext.worldOk rfl

section Forwards

variable {answers : Answers} {sampled : Bool} {service next : Service}

theorem Service.Forwards.valid (h : Service.Forwards answers sampled service next) :
    next.Valid := by
  cases h with
  | request env span headers task op w w' w'' entry actions _ _ _ _ hreach _ hserve hrun =>
      have hserved := hreach.serve task answers sampled op headers
      rw [hserve] at hserved
      have hevolves := (keeps_run hrun hserved.worldOk).2
      exact ⟨hserved.run hrun, (hserved.worldOk.span_context entry
        (serve_span_lt hreach hserve)).trans_le hevolves.contexts_le⟩

theorem Service.Forwards.noop (h : Service.Forwards answers sampled service next)
    (hvalid : service.Valid) (hnoop : (service.world.context service.context).noop = true) :
    (next.world.context next.context).noop = true := by
  cases h with
  | request env span headers task op w w' w'' entry actions hspan hcontext _ hheaders hreach _ hserve
      hrun =>
      rw [← hcontext, ← cls_eq_noop_iff hvalid.reachable hspan] at hnoop
      rw [headers_of_noop hnoop, Except.ok.injEq] at hheaders
      subst hheaders
      have hserved := hreach.serve task answers sampled op ⟨"1-------", ""⟩
      obtain ⟨entry', houtcome, hcls⟩ := serve_of_noop env task answers sampled op w
      have hlt := serve_span_lt hreach hserve
      rw [hserve] at hserved houtcome hcls
      obtain rfl : entry = entry' := Except.ok.inj houtcome
      have hkept := (keeps_run hrun hserved.worldOk).2.context_same _
        (hserved.worldOk.span_context entry hlt)
      exact hkept.1.trans ((cls_eq_noop_iff hserved hlt).mp hcls)

/-- A hop with a real span on both sides carries the trace id on. -/
theorem Service.Forwards.keeps (h : Service.Forwards ⟨false, false⟩ true service next)
    (hvalid : service.Valid) (hreal : (service.world.context service.context).noop = false) :
    (next.world.context next.context).noop = false ∧
      (next.world.context next.context).traceId =
        (service.world.context service.context).traceId := by
  cases h with
  | request env span headers task op w w' w'' entry actions hspan hcontext hsends hheaders hreach
      hempty hserve hrun =>
      have hiff := cls_eq_noop_iff hvalid.reachable hspan
      rw [hcontext, hreal] at hiff
      have hcls : (service.world.span span).cls ≠ .NoopSpan := fun hcls => by simp [hcls] at hiff
      have hsend := hsends.resolve_right hcls
      have hsid : 0 ≤ (service.world.span span).sid :=
        hvalid.reachable.inv.sid_nonneg span hspan (by simp [Span.toLedger, hcls])
      obtain ⟨headers', traceId, hheaders', houtcome, -, hcontinues⟩ :=
        serve_of_exit hvalid.reachable.worldOk hspan (hcontext ▸ hreal) hsid hsend hreach.worldOk
          hempty op
      obtain rfl : headers = headers' := Except.ok.inj (hheaders.symm.trans hheaders')
      have hserved := hreach.serve task ⟨false, false⟩ true op headers
      have hlt := serve_span_lt hreach hserve
      rw [hserve] at hserved houtcome hcontinues
      obtain rfl : entry = w.spans.size := Except.ok.inj houtcome
      have hevolves := (keeps_run hrun hserved.worldOk).2
      have hlt' := hserved.worldOk.span_context _ hlt
      obtain ⟨rest, hkept⟩ := hevolves.trace_kept _ hlt' _ _ hcontinues.traces (by simp)
      refine ⟨(hevolves.context_same _ hlt').1.trans ?_, ?_⟩
      · have hentry := cls_eq_noop_iff hserved hlt
        rw [hcontinues.cls] at hentry
        simpa using hentry
      · rw [← hcontext, hcontinues.traceId_eq, SpanContext.traceId, hkept]
        rfl

end Forwards

/-- The services behind a real one, over requests that every service accepts. -/
theorem chain_keeps {first last : Service} (hvalid : first.Valid)
    (hreal : (first.world.context first.context).noop = false)
    (hchain : Relation.ReflTransGen (Service.Forwards ⟨false, false⟩ true) first last) :
    last.Valid ∧ (last.world.context last.context).noop = false ∧
      (last.world.context last.context).traceId = (first.world.context first.context).traceId := by
  induction hchain with
  | refl => exact ⟨hvalid, hreal, rfl⟩
  | tail _ hstep ih =>
      obtain ⟨hvalid', hreal', htrace⟩ := ih
      obtain ⟨hnext, htrace'⟩ := hstep.keeps hvalid' hreal'
      exact ⟨hstep.valid, hnext, htrace'.trans htrace⟩

/-- The services behind a noop hop, whatever they answer. -/
theorem chain_noop {first last : Service} (hvalid : first.Valid)
    (hnoop : (first.world.context first.context).noop = true)
    (hchain : Relation.ReflTransGen
      (fun service next => ∃ answers sampled, Service.Forwards answers sampled service next) first
      last) :
    last.Valid ∧ (last.world.context last.context).noop = true := by
  induction hchain with
  | refl => exact ⟨hvalid, hnoop⟩
  | tail _ hstep ih =>
      obtain ⟨answers, sampled, hstep⟩ := hstep
      obtain ⟨hvalid', hnoop'⟩ := ih
      exact ⟨hstep.valid, hstep.noop hvalid' hnoop'⟩

/-- **Trace continuity over requests.** An exit span without gaps is continued by the entry span of the
next service, a noop span makes it a noop span; so a whole chain has the trace id of its first service,
and behind a noop hop there are only noop hops. -/
theorem trace_continues_over_requests :
    (∀ (env env' : Env) (w w' : World) (span task : Nat) (op : String), Reachable env w →
      Reachable env' w' → span < w.spans.size → Sendable env env' w span → w'.view task = [] →
      ∃ headers entry traceId, Span.headers env span w = .ok headers ∧
        (serve env' task ⟨false, false⟩ true op headers w').2 = .ok entry ∧
        w'.contexts.size ≤
          ((serve env' task ⟨false, false⟩ true op headers w').1.span entry).context ∧
        Continues env w span (serve env' task ⟨false, false⟩ true op headers w').1 entry traceId) ∧
    (∀ (env env' : Env) (w w' : World) (span task : Nat) (answers : Answers) (sampled : Bool)
      (op : String), (w.span span).cls = .NoopSpan →
      ∃ headers entry, Span.headers env span w = .ok headers ∧
        (serve env' task answers sampled op headers w').2 = .ok entry ∧
        ((serve env' task answers sampled op headers w').1.span entry).cls = .NoopSpan) ∧
    (∀ first last : Service, first.Valid → (first.world.context first.context).noop = false →
      Relation.ReflTransGen (Service.Forwards ⟨false, false⟩ true) first last →
      (last.world.context last.context).traceId = (first.world.context first.context).traceId) ∧
    (∀ first last : Service, first.Valid → (first.world.context first.context).noop = true →
      Relation.ReflTransGen
        (fun service next => ∃ answers sampled, Service.Forwards answers sampled service next)
        first last →
      (last.world.context last.context).noop = true) := by
  refine ⟨?_, ?_, ?_, ?_⟩
  · intro env env' w w' span task op hreach hreach' hspan hsend hempty
    have hcls : (w.span span).cls ≠ .NoopSpan := by simp [hsend.cls]
    have hreal : (w.context (w.span span).context).noop = false := by
      simpa [hcls] using cls_eq_noop_iff hreach hspan
    have hsid : 0 ≤ (w.span span).sid :=
      hreach.inv.sid_nonneg span hspan (by simp [Span.toLedger, hcls])
    obtain ⟨headers, traceId, hheaders, houtcome, hfresh, hcontinues⟩ :=
      serve_of_exit hreach.worldOk hspan hreal hsid hsend hreach'.worldOk hempty op
    exact ⟨headers, w'.spans.size, traceId, hheaders, houtcome, hfresh.ge, hcontinues⟩
  · intro env env' w w' span task answers sampled op hnoop
    obtain ⟨entry, houtcome, hcls⟩ := serve_of_noop env' task answers sampled op w'
    exact ⟨_, entry, headers_of_noop hnoop, houtcome, hcls⟩
  · intro first last hvalid hreal hchain
    exact (chain_keeps hvalid hreal hchain).2.2
  · intro first last hvalid hnoop hchain
    exact (chain_noop hvalid hnoop hchain).2

/-- A client that has put an entry into its correlation map. -/
def clientActions : List ApiAction :=
  [.getContext 0 true,
    .newSpan 0 0 ⟨false, false⟩ (.newExitSpan "/users" (some "provider:9091") none none),
    .start 0 0,
    .putCorrelation 0 (some "user") (some "七")]

theorem client_continued :
    ∃ first last : Service, Service.Forwards ⟨false, false⟩ true first last ∧
      (last.world.context last.context).traceId = (first.world.context first.context).traceId ∧
      (first.world.context first.context).traceId = some "aa" := by
  have hresult : ∃ w, Reachable .sample w ∧ 0 < w.spans.size ∧ 0 < w.contexts.size ∧
      (w.span 0).cls = .ExitSpan ∧ (w.span 0).context = 0 ∧ (w.span 0).op = "/users" ∧
      (w.span 0).peer = some "provider:9091" ∧ (w.context 0).noop = false ∧
      w.dicts.get (w.context 0).correlation = [("user", "七")] ∧
      (w.context 0).traceId = some "aa" := by
    apply exists_reachable clientActions
    decide +kernel
  obtain ⟨w, hreach, hspan, hlt, hcls, hcontext, hop, hpeer, hreal, hdict, htrace⟩ := hresult
  have hinit : Reachable .sample .init := ⟨[], .nil _⟩
  have hsend : Sendable .sample .sample w 0 :=
    ⟨hcls, ⟨by decide, by decide, by rw [hop]; decide, _, hpeer, by decide⟩, by
      rw [hcontext, hdict]; decide⟩
  obtain ⟨hhop, -, hchain, -⟩ := trace_continues_over_requests
  obtain ⟨headers, entry, -, hheaders, houtcome, -⟩ :=
    hhop .sample .sample w .init 0 0 "/users" hreach hinit hspan hsend rfl
  have hforwards : Service.Forwards ⟨false, false⟩ true ⟨.sample, w, 0⟩ _ :=
    .request _ .sample 0 headers 0 "/users" .init _ _ entry [] hspan hcontext (.inl hsend) hheaders
      hinit rfl (Prod.ext rfl houtcome) (.nil _)
  exact ⟨_, _, hforwards, hchain _ _ ⟨hreach, hlt⟩ hreal (.single hforwards), htrace⟩

end SkyWalking
