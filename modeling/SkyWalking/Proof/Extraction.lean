import SkyWalking.Proof.CarrierLemmas
import SkyWalking.Trace.Propagation
import SkyWalking.Proof.WellformedLemmas

/-!
# What a span takes from a carrier

`Span.extract` on a span that was just created in a segment of its own.
-/

namespace SkyWalking

open World

variable {env : Env} {w w' : World}

theorem SegmentRef.ofCarrier_eq {carrier : Carrier} {spanId : Int}
    (hnumber : carrier.spanId.toInt = .ok spanId) (refType : String) :
    SegmentRef.ofCarrier carrier refType = .ok (carrier.toRef refType spanId) := by
  rw [SegmentRef.ofCarrier, hnumber]
  rfl

theorem Segment.relate_of_new {segment : Segment} {made : String}
    (hnew : segment.relatedTraces = [⟨.NewID, made⟩]) (id : ID) :
    (segment.relate id).relatedTraces = [id] := by
  simp [Segment.relate, hnew]

theorem idOf_of_ne {rawId : String} (hne : rawId ≠ "") (w : World) :
    Span.idOf env rawId w = (w, ⟨.ID, rawId⟩) := if_neg hne

/-- The world in which `Span.extract` looks at the carrier. -/
def taken (span : Nat) (carrier : Carrier) (w : World) : World :=
  (w.modifyContext (w.span span).context (SpanContext.relate ⟨.ID, carrier.traceId⟩)).modifyContext
    (w.span span).context (SpanContext.withCorrelation carrier.correlation)

section Extract

variable {span : Nat} {carrier : Carrier} (htrace : carrier.traceId ≠ "")

include htrace

theorem extractReal_of_error {error : PyError} (hvalid : carrier.isValid = .error error) :
    Span.extractReal env span carrier w = (taken span carrier w, .error error) := by
  unfold Span.extractReal
  rw [idOf_of_ne htrace]
  dsimp only
  rw [hvalid]
  rfl

theorem extractReal_of_invalid (hvalid : carrier.isValid = .ok false) :
    Span.extractReal env span carrier w = (taken span carrier w, .ok ()) := by
  unfold Span.extractReal
  rw [idOf_of_ne htrace]
  dsimp only
  rw [hvalid]
  rfl

theorem extractReal_of_valid (hvalid : carrier.isValid = .ok true) {spanId : Int}
    (hnumber : carrier.spanId.toInt = .ok spanId) (hrefs : (w.span span).refs = []) :
    Span.extractReal env span carrier w =
      ((taken span carrier w).modifySpan span
        (Span.addRef (carrier.toRef "CrossProcess" spanId)), .ok ()) := by
  have hmem : carrier.toRef "CrossProcess" spanId ∉ ((taken span carrier w).span span).refs := by
    intro h
    have hspan : (taken span carrier w).span span = w.span span := rfl
    rw [hspan, hrefs] at h
    cases h
  unfold Span.extractReal
  rw [idOf_of_ne htrace]
  dsimp only
  rw [hvalid, SegmentRef.ofCarrier_eq hnumber]
  exact if_neg hmem

end Extract

theorem taken_context (span : Nat) (carrier : Carrier) (w : World) (c : Nat) :
    (taken span carrier w).context c =
      if c = (w.span span).context then
        ((w.context c).relate ⟨.ID, carrier.traceId⟩).withCorrelation carrier.correlation
      else w.context c := by
  simp only [taken, World.context, World.modifyContext, Store.modify_modify, Store.get_modify]

/-- A carrier leaves its trace id and its map in the segment of a span, and a reference in the span if
it is valid. -/
structure Extracted (span : Nat) (carrier : Carrier) (w w' : World)
    (outcome : Except PyError Unit) : Prop where
  size : w'.spans.size = w.spans.size
  span_same : ∀ s, (w'.span s).cls = (w.span s).cls ∧ (w'.span s).context = (w.span s).context
  other : ∀ c, c ≠ (w.span span).context → w'.context c = w.context c
  traces : (w'.context (w.span span).context).segment.relatedTraces = [⟨.ID, carrier.traceId⟩]
  correlation : (w'.context (w.span span).context).correlation = carrier.correlation
  noop : (w'.context (w.span span).context).noop = (w.context (w.span span).context).noop
  dicts : w'.dicts = w.dicts
  valid : carrier.isValid = .ok true → ∀ spanId, carrier.spanId.toInt = .ok spanId →
    outcome = .ok () ∧ (w'.span span).refs = [carrier.toRef "CrossProcess" spanId]
  invalid : carrier.isValid ≠ .ok true → (w'.span span).refs = []

theorem extractReal_of_new (env : Env) {span : Nat} {carrier : Carrier} (htrace : carrier.traceId ≠ "")
    (hrefs : (w.span span).refs = []) {made : String}
    (hnew : (w.context (w.span span).context).segment.relatedTraces = [⟨.NewID, made⟩])
    {number : Int} (hnumber : carrier.spanId.toInt = .ok number) :
    Extracted span carrier w (Span.extractReal env span carrier w).1
      (Span.extractReal env span carrier w).2 := by
  have hself : (taken span carrier w).context (w.span span).context =
      ((w.context (w.span span).context).relate ⟨.ID, carrier.traceId⟩).withCorrelation
        carrier.correlation := by
    rw [taken_context, if_pos rfl]
  -- what the carrier leaves whether it is valid or not
  have htaken : ∀ outcome, (carrier.isValid = .ok true → False) →
      Extracted span carrier w (taken span carrier w) outcome := by
    intro outcome hinvalid
    refine ⟨rfl, fun _ => ⟨rfl, rfl⟩, fun c hc => ?_, ?_, ?_, ?_, rfl, fun h => (hinvalid h).elim,
      fun _ => hrefs⟩
    · rw [taken_context, if_neg hc]
    · rw [hself]
      exact Segment.relate_of_new hnew _
    · rw [hself]
      rfl
    · rw [hself]
      rfl
  cases hvalid : carrier.isValid with
  | error error =>
      rw [extractReal_of_error htrace hvalid]
      exact htaken _ (by simp [hvalid])
  | ok valid =>
      cases valid with
      | false =>
          rw [extractReal_of_invalid htrace hvalid]
          exact htaken _ (by simp [hvalid])
      | true =>
          rw [extractReal_of_valid htrace hvalid hnumber hrefs]
          refine ⟨rfl, fun s => ?_, fun c hc => ?_, ?_, ?_, ?_, rfl,
            fun _ spanId hspanId => ⟨rfl, ?_⟩, fun h => absurd hvalid h⟩
          · simp only [World.span, World.modifySpan, Store.get_modify]
            split <;> exact ⟨rfl, rfl⟩
          · exact (taken_context span carrier w c).trans (if_neg hc)
          · exact (congrArg (·.segment.relatedTraces) hself).trans (Segment.relate_of_new hnew _)
          · exact congrArg (·.correlation) hself
          · exact congrArg (·.noop) hself
          · rw [hnumber, Except.ok.injEq] at hspanId
            simp [World.span, World.modifySpan, Span.addRef, ← hspanId,
              show (w.spans.get span).refs = [] from hrefs, taken, World.modifyContext]

theorem segment_spans_start (task s c : Nat) (w : World) :
    ((Span.start task s w).context c).segment.spans = (w.context c).segment.spans := by
  have hledger := congrArg (fun l => (l.context c).spans) (ledger_start task s w)
  simp only [Ledger.spans_context_start] at hledger
  exact hledger

theorem segment_spans_stop_of_ne (task : Nat) {s c : Nat} (queueFull : Bool) (w : World)
    (hne : c ≠ (w.span s).context) :
    ((Span.stop task s queueFull w).1.context c).segment.spans = (w.context c).segment.spans := by
  have hledger := congrArg (fun l => (l.context c).spans) (ledger_stop task s queueFull w)
  rw [Ledger.context_stop, if_neg fun h => hne h.2] at hledger
  exact hledger

end SkyWalking
