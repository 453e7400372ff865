import SkyWalking.Report.Encode
import SkyWalking.Proof.FinishedParent

/-!
# The encoders compared
-/

namespace SkyWalking

section Builders

variable {ε α β γ : Type}

theorem bind_ok_iff {x : Except ε α} {next : α → Except ε β} {b : β} :
    (x >>= next) = .ok b ↔ ∃ a, x = .ok a ∧ next a = .ok b := by
  cases x with
  | error error =>
      constructor
      · intro h
        cases h
      · rintro ⟨a, h, -⟩
        cases h
  | ok a =>
      constructor
      · intro h
        exact ⟨a, rfl, h⟩
      · rintro ⟨a', heq, h⟩
        obtain rfl := Except.ok.inj heq
        exact h

/-- A list is built from builders that each give one value or raise. -/
theorem mapM_ok_iff {build : α → Except ε β} {fits : α → Prop} {plain : α → β}
    (h : ∀ a b, build a = .ok b ↔ fits a ∧ b = plain a) (as : List α) :
    ∀ bs, as.mapM build = .ok bs ↔ (∀ a ∈ as, fits a) ∧ bs = as.map plain := by
  induction as with
  | nil =>
      intro bs
      simp only [List.mapM_nil, List.not_mem_nil, false_imp_iff, implies_true, true_and,
        List.map_nil]
      exact ⟨fun h => (Except.ok.inj h).symm, fun h => congrArg Except.ok h.symm⟩
  | cons a as ih =>
      intro bs
      rw [List.mapM_cons, bind_ok_iff, List.forall_mem_cons, List.map_cons]
      constructor
      · rintro ⟨b, hb, hrest⟩
        obtain ⟨hfits, rfl⟩ := (h a b).mp hb
        obtain ⟨rest, hmap, hbs⟩ := bind_ok_iff.mp hrest
        obtain ⟨hall, rfl⟩ := (ih rest).mp hmap
        exact ⟨⟨hfits, hall⟩, (Except.ok.inj hbs).symm⟩
      · rintro ⟨⟨hfits, hall⟩, rfl⟩
        refine ⟨plain a, (h a _).mpr ⟨hfits, rfl⟩, bind_ok_iff.mpr ⟨as.map plain, ?_, rfl⟩⟩
        exact (ih _).mpr ⟨hall, rfl⟩

theorem create_ok_iff {fits : Bool} {error : ε} {fields : α} :
    ∀ a, (if fits then Except.ok fields else .error error) = .ok a ↔ fits ∧ a = fields := by
  intro a
  cases fits with
  | true => exact ⟨fun h => ⟨rfl, (Except.ok.inj h).symm⟩, fun h => congrArg Except.ok h.2.symm⟩
  | false => exact ⟨fun h => by simp at h, fun h => by simp at h⟩

end Builders

section Plain

variable (refType : SegmentRef → Int)

def plainReference (ref : SegmentRef) : SegmentReference :=
  ⟨refType ref, ref.traceId, ref.segmentId, ref.spanId, ref.service, ref.serviceInstance,
    ref.endpoint.getD "", ref.clientAddress.getD ""⟩

def plainLog (log : Log) : LogObject :=
  ⟨millis log.timestamp, log.items.map fun item => ⟨item.key, item.val⟩⟩

def plainSpan (span : Span) : SpanObject :=
  ⟨span.sid, span.pid, span.startTime, span.endTime, span.op, span.peer.getD "", span.kind.name,
    span.layer.name, span.component.value, span.errorOccurred, span.logs.map plainLog,
    span.iterTags.map fun tag => ⟨tag.key, tag.val⟩,
    (span.refs.filter fun ref => ref.traceId ≠ "").map (plainReference refType)⟩

/-- What a segment is as an object, whether or not the classes take its numbers. -/
def plainSegment (env : Env) (w : World) (segment : Segment) : SegmentObject :=
  ⟨segment.traceId, segment.segmentId.value, env.agentName, env.agentInstanceName,
    segment.isSizeLimited, segment.spans.map fun span => plainSpan refType (w.span span)⟩

variable (takes : IntField → Int → Bool)

theorem spanObject_ok_iff (span : Span) (object : SpanObject) :
    spanObject takes refType span = .ok object ↔ span.Fits takes ∧ object = plainSpan refType span := by
  have hlog : ∀ log object, logObject takes log = .ok object ↔
      takes .time (millis log.timestamp) ∧ object = plainLog log := fun log => create_ok_iff
  have href : ∀ ref object, referenceObject takes refType ref = .ok object ↔
      takes .refParentSpanId ref.spanId ∧ object = plainReference refType ref :=
    fun ref => create_ok_iff
  have hlogs := mapM_ok_iff hlog span.logs
  have hrefs := mapM_ok_iff href (span.refs.filter fun ref => ref.traceId ≠ "")
  have hkept : (∀ ref ∈ span.refs.filter fun ref => ref.traceId ≠ "",
      takes .refParentSpanId ref.spanId) ↔
        ∀ ref ∈ span.refs, ref.traceId ≠ "" → takes .refParentSpanId ref.spanId := by
    simp only [List.mem_filter, decide_eq_true_eq, and_imp]
  unfold spanObject
  rw [bind_ok_iff]
  constructor
  · rintro ⟨logs, hlogsEq, hrest⟩
    obtain ⟨hfitsLogs, rfl⟩ := (hlogs logs).mp hlogsEq
    obtain ⟨refs, hrefsEq, hcreate⟩ := bind_ok_iff.mp hrest
    obtain ⟨hfitsRefs, rfl⟩ := (hrefs refs).mp hrefsEq
    obtain ⟨hnumbers, hobject⟩ := (create_ok_iff object).mp hcreate
    simp only [Bool.and_eq_true] at hnumbers
    obtain ⟨⟨⟨⟨hspanId, hparent⟩, hstart⟩, hend⟩, hcomponent⟩ := hnumbers
    exact ⟨⟨hspanId, hparent, hstart, hend, hcomponent, hfitsLogs, hkept.mp hfitsRefs⟩, hobject⟩
  · rintro ⟨hfits, hobject⟩
    refine ⟨_, (hlogs _).mpr ⟨hfits.logs, rfl⟩, bind_ok_iff.mpr
      ⟨_, (hrefs _).mpr ⟨hkept.mpr hfits.refs, rfl⟩, (create_ok_iff object).mpr ⟨?_, hobject⟩⟩⟩
    simp only [Bool.and_eq_true]
    exact ⟨⟨⟨⟨hfits.spanId, hfits.parentSpanId⟩, hfits.startTime⟩, hfits.endTime⟩,
      hfits.componentId⟩

theorem segmentObject_ok_iff (env : Env) (w : World) (segment : Segment) (object : SegmentObject) :
    segmentObject takes refType env w segment = .ok object ↔
      (∀ span ∈ segment.spans, (w.span span).Fits takes) ∧
        object = plainSegment refType env w segment := by
  have hspans := mapM_ok_iff (fun span => spanObject_ok_iff refType takes (w.span span)) segment.spans
  unfold segmentObject
  rw [bind_ok_iff]
  constructor
  · rintro ⟨spans, hspansEq, hobject⟩
    obtain ⟨hfits, rfl⟩ := (hspans spans).mp hspansEq
    exact ⟨hfits, (Except.ok.inj hobject).symm⟩
  · rintro ⟨hfits, rfl⟩
    exact ⟨_, (hspans _).mpr ⟨hfits, rfl⟩, rfl⟩

end Plain

theorem pairJson_denotes (key value : String) :
    KeyStringValuePair.ofJson (pairJson key value) = some ⟨key, value⟩ := rfl

theorem referenceJson_denotes (ref : SegmentRef) :
    SegmentReference.ofJson (referenceJson ref) = some (plainReference (fun _ => 0) ref) := by
  obtain ⟨refType, traceId, segmentId, spanId, service, serviceInstance, endpoint, clientAddress⟩ := ref
  cases endpoint <;> cases clientAddress <;> rfl

theorem logJson_denotes (log : Log) : LogObject.ofJson (logJson log) = some (plainLog log) := by
  have hdata : Json.toList? KeyStringValuePair.ofJson
      (.arr (log.items.map fun item => pairJson item.key item.val)) =
      some (log.items.map fun item => ⟨item.key, item.val⟩) :=
    Json.toList?_arr_map (fun item => pairJson_denotes item.key item.val) log.items
  have hfield : (logJson log).field "data" =
      .arr (log.items.map fun item => pairJson item.key item.val) := rfl
  unfold LogObject.ofJson
  rw [hfield, hdata]
  rfl

theorem spanJson_denotes (span : Span) :
    SpanObject.ofJson (spanJson span) = some (plainSpan (fun _ => 0) span) := by
  have hpeer : ((spanJson span).field "peer").toStr? = some (span.peer.getD "") :=
    Json.toStr?_ofOption span.peer
  have hlogs : ((spanJson span).field "logs").toList? LogObject.ofJson =
      some (span.logs.map plainLog) :=
    Json.toList?_arr_map logJson_denotes span.logs
  have htags : ((spanJson span).field "tags").toList? KeyStringValuePair.ofJson =
      some (span.iterTags.map fun tag => ⟨tag.key, tag.val⟩) :=
    Json.toList?_arr_map (β := Tag) (fun tag => pairJson_denotes tag.key tag.val) span.iterTags
  have hrefs : ((spanJson span).field "refs").toList? SegmentReference.ofJson =
      some ((span.refs.filter fun ref => ref.traceId ≠ "").map (plainReference fun _ => 0)) :=
    Json.toList?_arr_map referenceJson_denotes _
  unfold SpanObject.ofJson
  rw [hpeer, hlogs, htags, hrefs]
  rfl

/-- The JSON denotes the object with every reference numbered zero. -/
theorem segmentJson_denotes (env : Env) (w : World) (segment : Segment) :
    SegmentObject.ofJson (segmentJson env w segment) =
      some (plainSegment (fun _ => 0) env w segment) := by
  have hspans : ((segmentJson env w segment).field "spans").toList? SpanObject.ofJson =
      some (segment.spans.map fun span => plainSpan (fun _ => 0) (w.span span)) :=
    Json.toList?_arr_map (fun span => spanJson_denotes (w.span span)) segment.spans
  unfold SegmentObject.ofJson
  rw [hspans]
  rfl

section Numberings

variable {f g : SegmentRef → Int}

theorem plainReference_eq_iff (ref : SegmentRef) :
    plainReference f ref = plainReference g ref ↔ f ref = g ref := by
  constructor
  · intro h
    exact congrArg SegmentReference.refType h
  · intro h
    simp only [plainReference, h]

theorem plainSpan_eq_iff (span : Span) :
    plainSpan f span = plainSpan g span ↔
      ∀ ref ∈ span.refs, ref.traceId ≠ "" → f ref = g ref := by
  have hrefs : (span.refs.filter fun ref => ref.traceId ≠ "").map (plainReference f) =
      (span.refs.filter fun ref => ref.traceId ≠ "").map (plainReference g) ↔
        ∀ ref ∈ span.refs, ref.traceId ≠ "" → f ref = g ref := by
    simp only [List.map_inj_left, List.mem_filter, decide_eq_true_eq, and_imp,
      plainReference_eq_iff]
  rw [← hrefs]
  constructor
  · intro h
    exact congrArg SpanObject.refs h
  · intro h
    simp only [plainSpan, h]

/-- Two ways to number the references of a segment give one object. -/
theorem plainSegment_eq_iff (env : Env) (w : World) (segment : Segment) :
    plainSegment f env w segment = plainSegment g env w segment ↔
      ∀ span ∈ segment.spans, ∀ ref ∈ (w.span span).refs, ref.traceId ≠ "" → f ref = g ref := by
  have hspans : segment.spans.map (fun span => plainSpan f (w.span span)) =
      segment.spans.map (fun span => plainSpan g (w.span span)) ↔
        ∀ span ∈ segment.spans, ∀ ref ∈ (w.span span).refs, ref.traceId ≠ "" → f ref = g ref := by
    simp only [List.map_inj_left, plainSpan_eq_iff]
  rw [← hspans]
  constructor
  · intro h
    exact congrArg SegmentObject.spans h
  · intro h
    simp only [plainSegment, h]

end Numberings

theorem refTypeNumber_eq_zero_iff (ref : SegmentRef) :
    ref.refTypeNumber = 0 ↔ ref.refType = "CrossProcess" := by
  unfold SegmentRef.refTypeNumber
  split <;> simp [*]

theorem segmentJson_denotes_plain_iff (env : Env) (w : World) (segment : Segment) :
    SegmentObject.ofJson (segmentJson env w segment) =
        some (plainSegment SegmentRef.refTypeNumber env w segment) ↔
      ∀ span ∈ segment.spans, ∀ ref ∈ (w.span span).refs,
        ref.traceId ≠ "" → ref.refType = "CrossProcess" := by
  rw [segmentJson_denotes, Option.some.injEq, plainSegment_eq_iff]
  simp only [eq_comm (a := (0 : Int)), refTypeNumber_eq_zero_iff]

/-- The encoders agree on a segment exactly if the message classes take all its numbers and none of its
references to a trace crosses threads. -/
theorem encoders_agree_iff (takes : IntField → Int → Bool) (env : Env) (w : World)
    (segment : Segment) :
    EncodersAgree takes env w segment ↔
      ∀ span ∈ segment.spans, (w.span span).Fits takes ∧
        ∀ ref ∈ (w.span span).refs, ref.traceId ≠ "" → ref.refType = "CrossProcess" := by
  rw [forall₂_and, ← segmentJson_denotes_plain_iff env w segment]
  have hbuilds := segmentObject_ok_iff SegmentRef.refTypeNumber takes env w segment
  constructor
  · rintro ⟨object, hobject, -, -, -, hjson, -⟩
    obtain ⟨hfits, rfl⟩ := (hbuilds object).mp hobject
    exact ⟨hfits, hjson⟩
  · rintro ⟨hfits, hjson⟩
    have hobject := (hbuilds _).mpr ⟨hfits, rfl⟩
    exact ⟨_, hobject, hobject, hobject, hobject, hjson, hjson⟩

/-- A thread continues the trace of a request in a block of its own. -/
def crossThreadActions : List ApiAction :=
  [.getContext 0 true,
    .newSpan 0 0 ⟨false, false⟩ (.newEntrySpan "/request" none none),
    .start 0 0,
    .capture 0 0,
    .getContext 1 true,
    .newSpan 1 1 ⟨false, false⟩ (.newLocalSpan "work"),
    .start 1 1,
    .continued 1 1 0,
    .stop 1 1 false]

/-- The segment of the thread has a `CrossThread` reference, which the HTTP reporters number `0`,
whatever numbers the message classes take. -/
theorem cross_thread_encoders_differ :
    ∃ w, Reachable .sample w ∧ 1 ∈ w.archived ∧
      ∀ takes, ¬ EncodersAgree takes .sample w (w.context 1).segment := by
  have hresult : ∃ w, Reachable .sample w ∧ 1 ∈ w.archived ∧ 1 ∈ (w.context 1).segment.spans ∧
      ∃ ref ∈ (w.span 1).refs, ref.traceId ≠ "" ∧ ref.refType = "CrossThread" := by
    apply exists_reachable crossThreadActions
    decide +kernel
  obtain ⟨w, hreach, harchived, hspan, ref, href, htrace, htype⟩ := hresult
  refine ⟨w, hreach, harchived, fun takes => ?_⟩
  rintro ⟨object, hobject, -, -, -, hjson, -⟩
  obtain ⟨-, rfl⟩ := (segmentObject_ok_iff _ takes .sample w (w.context 1).segment object).mp hobject
  have hprocess := (segmentJson_denotes_plain_iff .sample w (w.context 1).segment).mp hjson
    1 hspan ref href htrace
  rw [htype] at hprocess
  exact absurd hprocess (by decide)

end SkyWalking
