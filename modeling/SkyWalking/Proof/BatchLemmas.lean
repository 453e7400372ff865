import SkyWalking.Proof.Extraction
import SkyWalking.Proof.FinishedParent
import SkyWalking.Lib.Distinct
import SkyWalking.Trace.Batch

/-!
# Extraction from received carriers

What a batch leaves in the segment is told by the identifiers that `ID(carrier.trace_id)` makes of its
carriers, one after the other, and what it leaves in the span by the references that can be made.
-/

namespace SkyWalking

open World

variable {env : Env} {w w' : World} {limit span : Nat} {carrier : Carrier} {carriers : List Carrier}
  {own : String}

theorem toIntWithin_zero (spanId : SpanId) : spanId.toIntWithin 0 = spanId.toInt := by
  cases spanId with
  | str text =>
      rw [SpanId.toIntWithin, Text.intWithin?_zero]
      rfl
  | int number => rfl

/-- Without a limit it is the extraction of the tracing API. -/
theorem extractWithin_zero (env : Env) (span : Nat) (carrier : Carrier) :
    Span.extractWithin env 0 span carrier = Span.extractReal env span carrier := by
  have href : SegmentRef.ofCarrierWithin 0 carrier = SegmentRef.ofCarrier carrier := by
    funext refType
    rw [SegmentRef.ofCarrierWithin, toIntWithin_zero]
    rfl
  funext w
  rw [Span.extractWithin, href]
  rfl

theorem idOf_spans (env : Env) (rawId : String) (w : World) :
    (Span.idOf env rawId w).1.spans = w.spans := by
  unfold Span.idOf
  split <;> rfl

theorem idOf_contexts (env : Env) (rawId : String) (w : World) :
    (Span.idOf env rawId w).1.contexts = w.contexts := by
  unfold Span.idOf
  split <;> rfl

/-- The world after the first two lines of `extract`. -/
def related (env : Env) (span : Nat) (carrier : Carrier) (w : World) : World :=
  ((Span.idOf env carrier.traceId w).1.modifyContext (w.span span).context
    (SpanContext.relate (Span.idOf env carrier.traceId w).2)).modifyContext
      (w.span span).context (SpanContext.withCorrelation carrier.correlation)

/-- The two contexts that `extract` names are the same. -/
theorem extractWithin_start (env : Env) (span : Nat) (carrier : Carrier) (w : World) :
    ((Span.idOf env carrier.traceId w).1.modifyContext
      (((Span.idOf env carrier.traceId w).1).span span).context
      (SpanContext.relate (Span.idOf env carrier.traceId w).2)).modifyContext
      (((Span.idOf env carrier.traceId w).1.modifyContext
        (((Span.idOf env carrier.traceId w).1).span span).context
        (SpanContext.relate (Span.idOf env carrier.traceId w).2)).span span).context
      (SpanContext.withCorrelation carrier.correlation) = related env span carrier w := by
  simp only [related, World.span, World.modifyContext, idOf_spans]

theorem span_related (s : Nat) : (related env span carrier w).span s = w.span s := by
  simp only [related, World.span, World.modifyContext, idOf_spans]

theorem extractWithin_of_not_valid (hvalid : ¬ carrier.Valid) :
    (Span.extractWithin env limit span carrier w).1 = related env span carrier w := by
  rw [← extractWithin_start env, Span.extractWithin]
  cases hanswer : carrier.isValid with
  | error error => rfl
  | ok valid =>
      cases valid with
      | false => rfl
      | true => exact absurd hanswer hvalid

theorem extractWithin_of_error (hvalid : carrier.Valid) {error : PyError}
    (href : SegmentRef.ofCarrierWithin limit carrier "CrossProcess" = .error error) :
    Span.extractWithin env limit span carrier w = (related env span carrier w, .error error) := by
  rw [← extractWithin_start env, Span.extractWithin, show carrier.isValid = .ok true from hvalid,
    href]

theorem extractWithin_of_ref (hvalid : carrier.Valid) {ref : SegmentRef}
    (href : SegmentRef.ofCarrierWithin limit carrier "CrossProcess" = .ok ref) :
    Span.extractWithin env limit span carrier w =
      (if ref ∈ (w.span span).refs then related env span carrier w
        else (related env span carrier w).modifySpan span (Span.addRef ref), .ok ()) := by
  rw [← extractWithin_start env, Span.extractWithin, show carrier.isValid = .ok true from hvalid,
    href]
  dsimp only
  rw [extractWithin_start env, span_related]
  split <;> rfl

/-- Whatever the carrier, the segment is related, and a reference is added or not. -/
theorem extractWithin_rule {P : World → Prop} (hrelated : P (related env span carrier w))
    (hadded : ∀ ref, P ((related env span carrier w).modifySpan span (Span.addRef ref))) :
    P (Span.extractWithin env limit span carrier w).1 := by
  by_cases hvalid : carrier.Valid
  · cases href : SegmentRef.ofCarrierWithin limit carrier "CrossProcess" with
    | error error =>
        rw [extractWithin_of_error hvalid href]
        exact hrelated
    | ok ref =>
        rw [extractWithin_of_ref hvalid href]
        dsimp only
        split
        · exact hrelated
        · exact hadded ref
  · rw [extractWithin_of_not_valid hvalid]
    exact hrelated

theorem extractWithin_refs_of_ref (hvalid : carrier.Valid) {ref : SegmentRef}
    (href : SegmentRef.ofCarrierWithin limit carrier "CrossProcess" = .ok ref) :
    ((Span.extractWithin env limit span carrier w).1.span span).refs =
      if ref ∈ (w.span span).refs then (w.span span).refs else (w.span span).refs ++ [ref] := by
  rw [extractWithin_of_ref hvalid href]
  dsimp only
  by_cases hmem : ref ∈ (w.span span).refs
  · rw [if_pos hmem, if_pos hmem, span_related]
  · rw [if_neg hmem, if_neg hmem, World.span, World.modifySpan, Store.get_modify_self]
    exact congrArg (fun s : Span => s.refs ++ [ref]) (span_related span)

theorem Carrier.Valid.spanId {carrier : Carrier} (hvalid : carrier.Valid) :
    ∃ text, carrier.spanId = .str text ∧ Text.isnumeric text = true := by
  obtain ⟨-, -, -, -, -, -, hnumeric⟩ := Carrier.isValid_eq_ok_true.mp hvalid
  cases hid : carrier.spanId with
  | str text =>
      rw [hid] at hnumeric
      exact ⟨text, rfl, Except.ok.inj hnumeric⟩
  | int number =>
      rw [hid] at hnumeric
      cases hnumeric

/-- The reference to a valid carrier can be made exactly if its span id can be converted. -/
theorem ofCarrierWithin_eq_ok (hvalid : carrier.Valid) {ref : SegmentRef} :
    SegmentRef.ofCarrierWithin limit carrier "CrossProcess" = .ok ref ↔
      ∃ (text : String) (number : Nat), carrier.spanId = .str text ∧ Text.Convertible limit text ∧
        Text.Denotes text number ∧ ref = carrier.toRef "CrossProcess" number := by
  obtain ⟨text, hid, hnumeric⟩ := hvalid.spanId
  have hread : SegmentRef.ofCarrierWithin limit carrier "CrossProcess" = .ok ref ↔
      ∃ number : Int, Text.intWithin? limit text = some number ∧
        carrier.toRef "CrossProcess" number = ref := by
    rw [SegmentRef.ofCarrierWithin, hid, SpanId.toIntWithin]
    cases Text.intWithin? limit text with
    | none => simp [Except.map]
    | some number => simp [Except.map]
  rw [hread]
  constructor
  · rintro ⟨number, hnumber, rfl⟩
    obtain ⟨hconvertible, value, rfl, hdenotes⟩ :=
      (Text.intWithin?_eq_some_iff hnumeric).mp hnumber
    exact ⟨text, value, hid, hconvertible, hdenotes, rfl⟩
  · rintro ⟨text', value, hid', hconvertible, hdenotes, rfl⟩
    obtain rfl : text = text' := by
      rw [hid] at hid'
      exact SpanId.str.inj hid'
    exact ⟨value, (Text.intWithin?_eq_some_iff hnumeric).mpr ⟨hconvertible, value, rfl, hdenotes⟩,
      rfl⟩

theorem Carrier.Numbered.exists_ref (h : carrier.Numbered limit) (hvalid : carrier.Valid) :
    ∃ (text : String) (number : Nat), carrier.spanId = .str text ∧ Text.Denotes text number ∧
      SegmentRef.ofCarrierWithin limit carrier "CrossProcess" =
        .ok (carrier.toRef "CrossProcess" number) := by
  obtain ⟨text, hid, hconvertible⟩ := h
  obtain ⟨number, hdenotes⟩ := Text.exists_denotes hconvertible.1
  exact ⟨text, number, hid, hdenotes,
    (ofCarrierWithin_eq_ok hvalid).mpr ⟨text, number, hid, hconvertible, hdenotes, rfl⟩⟩

/-- A valid carrier can be referenced exactly if its span id is a decimal number within the limit, in
whatever script; other numeric characters are accepted and then make `int` raise. -/
theorem valid_carrier_referenced_iff (env : Env) (limit span : Nat) (carrier : Carrier) (w : World)
    (hvalid : carrier.Valid) :
    Referenced span carrier w (Span.extractWithin env limit span carrier w).1
      (Span.extractWithin env limit span carrier w).2 ↔ carrier.Numbered limit := by
  constructor
  · intro h
    cases href : SegmentRef.ofCarrierWithin limit carrier "CrossProcess" with
    | error error =>
        have hreturned := h.returned
        rw [extractWithin_of_error hvalid href] at hreturned
        cases hreturned
    | ok ref =>
        obtain ⟨text, number, hid, hconvertible, -⟩ := (ofCarrierWithin_eq_ok hvalid).mp href
        exact ⟨text, hid, hconvertible⟩
  · intro h
    obtain ⟨text, number, hid, hdenotes, href⟩ := h.exists_ref hvalid
    constructor
    · rw [extractWithin_of_ref hvalid href]
    · exact ⟨text, number, hid, hdenotes, extractWithin_refs_of_ref hvalid href⟩

/-- A header whose span id is the given text. -/
def Carrier.numberedBy (spanId : String) : Carrier :=
  { val := none
    traceId := "trace"
    segmentId := "segment"
    spanId := .str spanId
    service := "service"
    serviceInstance := "instance"
    endpoint := some "/path"
    clientAddress := some "127.0.0.1:80"
    correlation := 0 }

theorem arabic_digits_referenced :
    Referenced 0 (Carrier.numberedBy "٣٤") .init
        (Span.extractWithin Env.sample 4300 0 (Carrier.numberedBy "٣٤") .init).1
        (Span.extractWithin Env.sample 4300 0 (Carrier.numberedBy "٣٤") .init).2 ↔
      (Carrier.numberedBy "٣٤").Numbered 4300 := by
  apply valid_carrier_referenced_iff
  decide +kernel

/-- One half is numeric. -/
theorem half_raises :
    (Carrier.numberedBy "½").Valid ∧
      (Span.extractWithin Env.sample 4300 0 (Carrier.numberedBy "½") .init).2 =
        .error .valueError ∧
      ¬ Referenced 0 (Carrier.numberedBy "½") .init
        (Span.extractWithin Env.sample 4300 0 (Carrier.numberedBy "½") .init).1
        (Span.extractWithin Env.sample 4300 0 (Carrier.numberedBy "½") .init).2 := by
  have hraises : (Span.extractWithin Env.sample 4300 0 (Carrier.numberedBy "½") .init).2 =
      .error .valueError := by
    decide +kernel
  refine ⟨by decide +kernel, hraises, fun h => ?_⟩
  have hreturned := h.returned
  rw [hraises] at hreturned
  cases hreturned

/-- The text of the identifier that `ID(carrier.trace_id)` makes when `n` identifiers are used up. -/
def Drawn (env : Env) (n : Nat) (carrier : Carrier) (text : String) : Prop :=
  carrier.traceId ≠ "" ∧ text = carrier.traceId ∨
    carrier.traceId = "" ∧ ∃ m, n ≤ m ∧ text = env.uuid1 m

theorem Drawn.mono {n n' : Nat} {text : String} (hle : n ≤ n') (h : Drawn env n' carrier text) :
    Drawn env n carrier text := by
  obtain h | ⟨hempty, m, hm, htext⟩ := h
  · exact .inl h
  · exact .inr ⟨hempty, m, hle.trans hm, htext⟩

theorem Drawn.eq {n : Nat} {text : String} (h : Drawn env n carrier text)
    (hne : carrier.traceId ≠ "") : text = carrier.traceId := by
  obtain ⟨-, htext⟩ | ⟨hempty, -⟩ := h
  · exact htext
  · exact absurd hempty hne

theorem idOf_drawn (env : Env) (carrier : Carrier) (w : World) :
    ∃ text, Drawn env w.uuids carrier text ∧ (Span.idOf env carrier.traceId w).2 = ⟨.ID, text⟩ ∧
      w.uuids ≤ (Span.idOf env carrier.traceId w).1.uuids := by
  unfold Span.idOf
  by_cases hempty : carrier.traceId = ""
  · rw [if_pos hempty]
    exact ⟨_, .inr ⟨hempty, w.uuids, le_rfl, rfl⟩, rfl, Nat.le_succ _⟩
  · rw [if_neg hempty]
    exact ⟨_, .inl ⟨hempty, rfl⟩, rfl, le_rfl⟩

/-- The segment of the span is related to one more trace. -/
structure RelatesOnce (env : Env) (span : Nat) (carrier : Carrier) (w w' : World) : Prop where
  context : (w'.span span).context = (w.span span).context
  uuids : w.uuids ≤ w'.uuids
  traces : ∃ text, Drawn env w.uuids carrier text ∧
    (w'.context (w.span span).context).segment =
      (w.context (w.span span).context).segment.relate ⟨.ID, text⟩

theorem relatesOnce_related (env : Env) (span : Nat) (carrier : Carrier) (w : World) :
    RelatesOnce env span carrier w (related env span carrier w) := by
  obtain ⟨text, hdrawn, hid, huuids⟩ := idOf_drawn env carrier w
  refine ⟨congrArg Span.context (span_related span), huuids, text, hdrawn, ?_⟩
  rw [← hid]
  simp only [related, World.context, World.modifyContext, Store.get_modify_self, idOf_contexts,
    SpanContext.withCorrelation, SpanContext.relate]

theorem RelatesOnce.addRef (h : RelatesOnce env span carrier w w') (ref : SegmentRef) :
    RelatesOnce env span carrier w (w'.modifySpan span (Span.addRef ref)) := by
  refine ⟨?_, h.uuids, h.traces⟩
  rw [World.span, World.modifySpan, Store.get_modify_self]
  exact h.context

theorem relatesOnce_extract (env : Env) (limit span : Nat) (carrier : Carrier) (w : World) :
    RelatesOnce env span carrier w (Span.extractWithin env limit span carrier w).1 := by
  have hrelated := relatesOnce_related env span carrier w
  exact extractWithin_rule hrelated fun ref => hrelated.addRef ref

theorem extractWithin_refs (env : Env) (limit span : Nat) (carrier : Carrier) (w : World) :
    ((Span.extractWithin env limit span carrier w).1.span span).refs =
      (w.span span).refs ++ ((carrier.ref? limit).toList.removeAll (w.span span).refs) := by
  by_cases hvalid : carrier.Valid
  · rw [Carrier.ref?, if_pos hvalid]
    cases href : SegmentRef.ofCarrierWithin limit carrier "CrossProcess" with
    | error error =>
        rw [extractWithin_of_error hvalid href, span_related]
        simp [Except.toOption]
    | ok ref =>
        rw [extractWithin_refs_of_ref hvalid href]
        by_cases hmem : ref ∈ (w.span span).refs
        · simp [Except.toOption, List.removeAll, hmem]
        · simp [Except.toOption, List.removeAll, hmem]
  · rw [extractWithin_of_not_valid hvalid, span_related, Carrier.ref?, if_neg hvalid]
    simp

theorem extractAll_append (carriers : List Carrier) (carrier : Carrier) (w : World) :
    Span.extractAll env limit span (carriers ++ [carrier]) w =
      (Span.extractWithin env limit span carrier (Span.extractAll env limit span carriers w)).1 := by
  rw [Span.extractAll, List.foldl_append]
  rfl

theorem extractAll_context (env : Env) (limit span : Nat) (carriers : List Carrier) (w : World) :
    ((Span.extractAll env limit span carriers w).span span).context = (w.span span).context := by
  induction carriers using List.reverseRecOn with
  | nil => rfl
  | append_singleton carriers carrier ih =>
      rw [extractAll_append, ← ih]
      exact (relatesOnce_extract env limit span carrier _).context

/-- The span takes in the references of the batch that it has not yet. -/
theorem extractAll_refs (env : Env) (limit span : Nat) (carriers : List Carrier) (w : World) :
    ((Span.extractAll env limit span carriers w).span span).refs = (w.span span).refs ++
      ((carriers.filterMap (Carrier.ref? limit)).removeAll (w.span span).refs).eraseDups := by
  induction carriers using List.reverseRecOn with
  | nil => exact (List.append_nil _).symm
  | append_singleton carriers carrier ih =>
      have hfilter : [carrier].filterMap (Carrier.ref? limit) = (carrier.ref? limit).toList := by
        cases href : carrier.ref? limit with
        | none => simp [href]
        | some ref => simp [href]
      rw [extractAll_append, extractWithin_refs, ih, List.filterMap_append, hfilter,
        Distinct.eraseDups_removeAll_append, List.append_assoc]

theorem relate_of_known {segment : Segment} (hknown : ∀ id ∈ segment.relatedTraces, id.cls ≠ .NewID)
    (id : ID) : (segment.relate id).relatedTraces = segment.relatedTraces ++ [id] := by
  unfold Segment.relate
  split
  · next made rest hnew =>
    exact absurd rfl (hknown ⟨.NewID, made⟩ (by simp [hnew]))
  · rfl

/-- Only the id that the segment generated itself gives way. -/
theorem relate_of_ok {segment : Segment} (hok : segment.TracesOk) (id : ID) :
    (segment.relate id).relatedTraces =
      segment.relatedTraces.filter (·.cls ≠ .NewID) ++ [id] := by
  by_cases hknown : ∀ id ∈ segment.relatedTraces, id.cls ≠ .NewID
  · rw [relate_of_known hknown, List.filter_eq_self.mpr]
    intro id hid
    exact decide_eq_true (hknown id hid)
  · push Not at hknown
    obtain ⟨⟨cls, made⟩, hmem, hnew⟩ := hknown
    obtain rfl : cls = .NewID := hnew
    have halone := hok.2.2 _ hmem rfl
    rw [Segment.relate_of_new halone, halone]
    rfl

theorem lasting_append {segment : Segment} (hne : carriers ≠ []) (carrier : Carrier) :
    segment.lasting (carriers ++ [carrier]) = segment.lasting carriers := by
  cases carriers with
  | nil => exact absurd rfl hne
  | cons first rest => rfl

theorem cls_of_lasting {segment : Segment} (hne : carriers ≠ []) {id : ID}
    (hid : id ∈ segment.lasting carriers) : id.cls ≠ .NewID := by
  cases carriers with
  | nil => exact absurd rfl hne
  | cons first rest => exact of_decide_eq_true (List.mem_filter.mp hid).2

/-- The identifiers that the batch draws follow those that stay. -/
theorem extractAll_traces (env : Env) (limit : Nat) (carriers : List Carrier)
    (hok : (w.context (w.span span).context).segment.TracesOk) :
    ∃ texts, List.Forall₂ (Drawn env w.uuids) carriers texts ∧
      ((Span.extractAll env limit span carriers w).context
        (w.span span).context).segment.relatedTraces =
          (w.context (w.span span).context).segment.lasting carriers ++ texts.map (⟨.ID, ·⟩) ∧
      w.uuids ≤ (Span.extractAll env limit span carriers w).uuids := by
  induction carriers using List.reverseRecOn with
  | nil => exact ⟨[], .nil, (List.append_nil _).symm, le_rfl⟩
  | append_singleton carriers carrier ih =>
      obtain ⟨texts, hbefore, hids, huuids⟩ := ih
      have hstep := relatesOnce_extract env limit span carrier
        (Span.extractAll env limit span carriers w)
      obtain ⟨text, hdrawn, hsegment⟩ := hstep.traces
      rw [extractAll_context] at hsegment
      have htraces := congrArg Segment.relatedTraces hsegment
      rw [extractAll_append]
      refine ⟨texts ++ [text], ?_, ?_, huuids.trans hstep.uuids⟩
      · exact List.rel_append hbefore (.cons (hdrawn.mono huuids) .nil)
      · by_cases hfirst : carriers = []
        · subst hfirst
          cases hbefore
          exact htraces.trans (relate_of_ok hok _)
        · have hknown : ∀ id ∈ ((Span.extractAll env limit span carriers w).context
              (w.span span).context).segment.relatedTraces, id.cls ≠ .NewID := by
            rw [hids]
            intro id hid
            obtain hlasting | hnew := List.mem_append.mp hid
            · exact cls_of_lasting hfirst hlasting
            · obtain ⟨text, -, rfl⟩ := List.mem_map.mp hnew
              exact IDClass.noConfusion
          rw [htraces, relate_of_known hknown, hids, lasting_append hfirst, List.map_append,
            List.append_assoc]
          rfl

theorem drawn_of_mem {n : Nat} {texts : List String}
    (hdrawn : List.Forall₂ (Drawn env n) carriers texts) (hmem : carrier ∈ carriers) :
    ∃ text ∈ texts, Drawn env n carrier text := by
  induction hdrawn with
  | nil => cases hmem
  | cons hfirst _ ih =>
      obtain rfl | hmem := List.mem_cons.mp hmem
      · exact ⟨_, List.mem_cons_self, hfirst⟩
      · obtain ⟨text, htext, hrest⟩ := ih hmem
        exact ⟨text, List.mem_cons_of_mem _ htext, hrest⟩

theorem drawn_of_named {n : Nat} {texts : List String}
    (hdrawn : List.Forall₂ (Drawn env n) carriers texts)
    (hnamed : ∀ carrier ∈ carriers, carrier.traceId ≠ "") :
    texts = carriers.map Carrier.traceId := by
  induction hdrawn with
  | nil => rfl
  | cons hfirst _ ih =>
      rw [List.map_cons, ih fun carrier hmem => hnamed carrier (List.mem_cons_of_mem _ hmem),
        hfirst.eq (hnamed _ List.mem_cons_self)]

theorem filterMap_ref?_of_numbered (hnumbered : ∀ carrier ∈ carriers, carrier.Valid →
    carrier.Numbered limit) :
    (carriers.filter (·.Valid)).map (SegmentRef.ofCarrierWithin limit · "CrossProcess") =
      (carriers.filterMap (Carrier.ref? limit)).map .ok := by
  induction carriers with
  | nil => rfl
  | cons carrier rest ih =>
      have hrest := ih fun carrier hmem => hnumbered carrier (List.mem_cons_of_mem _ hmem)
      by_cases hvalid : carrier.Valid
      · obtain ⟨_, number, _, _, href⟩ :=
          (hnumbered carrier List.mem_cons_self hvalid).exists_ref hvalid
        have hsome : carrier.ref? limit = some (carrier.toRef "CrossProcess" number) := by
          rw [Carrier.ref?, if_pos hvalid, href]
          rfl
        rw [List.filter_cons_of_pos (p := fun c : Carrier => c.Valid) (decide_eq_true hvalid),
          List.filterMap_cons_some hsome, List.map_cons, List.map_cons, href, hrest]
      · have hnone : carrier.ref? limit = none := by
          rw [Carrier.ref?, if_neg hvalid]
        rw [List.filter_cons_of_neg (p := fun c : Carrier => c.Valid) (by simpa using hvalid),
          List.filterMap_cons_none hnone, hrest]

/-- A new identifier is neither the own one nor that of a valid carrier. -/
theorem named_of_known (hundrawn : Undrawn env own carriers w) {texts : List String}
    (hdrawn : List.Forall₂ (Drawn env w.uuids) carriers texts)
    (hknown : ∀ text ∈ texts,
      text = own ∨ ∃ carrier ∈ carriers, carrier.Valid ∧ carrier.traceId = text) :
    ∀ carrier ∈ carriers, carrier.traceId ≠ "" := by
  intro carrier hcarrier hempty
  obtain ⟨text, htext, hdrawn⟩ := drawn_of_mem hdrawn hcarrier
  obtain ⟨hne, -⟩ | ⟨-, m, hm, rfl⟩ := hdrawn
  · exact hne hempty
  · obtain hsame | ⟨carrier', hmem, -, htrace⟩ := hknown _ htext
    · exact (hundrawn m hm).1 hsame
    · exact (hundrawn m hm).2 carrier' hmem htrace

theorem numbered_of_refs {refs : List SegmentRef}
    (hmade : (carriers.filter (·.Valid)).map (SegmentRef.ofCarrierWithin limit · "CrossProcess") =
      refs.map .ok) :
    ∀ carrier ∈ carriers, carrier.Valid → carrier.Numbered limit := by
  intro carrier hcarrier hvalid
  have hmem : SegmentRef.ofCarrierWithin limit carrier "CrossProcess" ∈ refs.map .ok := by
    rw [← hmade]
    exact List.mem_map_of_mem (f := (SegmentRef.ofCarrierWithin limit · "CrossProcess"))
      (List.mem_filter.mpr ⟨hcarrier, decide_eq_true hvalid⟩)
  obtain ⟨ref, -, href⟩ := List.mem_map.mp hmem
  obtain ⟨text, -, hid, hconvertible, -⟩ := (ofCarrierWithin_eq_ok hvalid).mp href.symm
  exact ⟨text, hid, hconvertible⟩

/-- **Identity.** A batch keeps the identity of the segment exactly if its valid carriers can be
referenced, its other carriers bring no trace id of their own, an empty one included, and earlier calls
left nothing else. -/
theorem batch_keeps_identity_iff (env : Env) (limit span : Nat) (carriers : List Carrier) (w : World)
    (own : String) (hreach : Reachable env w) (hspan : span < w.spans.size)
    (hreal : (w.context (w.span span).context).noop = false)
    (hundrawn : Undrawn env own carriers w) :
    KeepsIdentity own limit span carriers (Span.extractAll env limit span carriers w) ↔
      Harmless own limit carriers (w.context (w.span span).context).segment (w.span span).refs := by
  have hcontext := extractAll_context env limit span carriers w
  have hrefs := extractAll_refs env limit span carriers w
  have hok := hreach.worldOk
  obtain ⟨texts, hdrawn, hids, -⟩ := extractAll_traces env limit carriers
    (hok.traces _ (hok.span_context span hspan) hreal)
  have htraces : ((Span.extractAll env limit span carriers w).context
      ((Span.extractAll env limit span carriers w).span span).context).segment.relatedTraces =
        (w.context (w.span span).context).segment.lasting carriers ++ texts.map (⟨.ID, ·⟩) := by
    rw [hcontext, hids]
  constructor
  · intro h
    have hknown := h.known
    rw [htraces] at hknown
    have hnamed : ∀ carrier ∈ carriers, carrier.traceId ≠ "" := by
      apply named_of_known hundrawn hdrawn
      intro text htext
      exact hknown ⟨.ID, text⟩ (List.mem_append_right _ (List.mem_map_of_mem htext))
    obtain rfl := drawn_of_named hdrawn hnamed
    obtain ⟨refs, hmade, hdistinct⟩ := h.refs
    have hnumbered := numbered_of_refs hmade
    refine ⟨hnumbered, hnamed, ?_, ?_, ?_, ?_⟩
    · intro carrier hcarrier _
      exact hknown ⟨.ID, carrier.traceId⟩
        (List.mem_append_right _ (List.mem_map_of_mem (List.mem_map_of_mem hcarrier)))
    · intro id hid
      exact hknown id (List.mem_append_left _ hid)
    · have hfirst := h.first
      rw [SpanContext.traceId, htraces, ← List.head?_map, List.map_append, List.map_map,
        List.map_map] at hfirst
      exact hfirst
    · rw [filterMap_ref?_of_numbered hnumbered] at hmade
      obtain rfl := (List.map_injective_iff.mpr fun _ _ => Except.ok.inj) hmade
      rw [hrefs] at hdistinct
      exact Distinct.append_eraseDups_removeAll_iff.mp hdistinct
  · intro h
    obtain rfl := drawn_of_named hdrawn h.named
    refine ⟨?_, ?_, _, filterMap_ref?_of_numbered h.numbered, ?_⟩
    · rw [SpanContext.traceId, htraces, ← List.head?_map, List.map_append, List.map_map,
        List.map_map]
      exact h.first
    · rw [htraces]
      intro id hid
      obtain hlasting | hnew := List.mem_append.mp hid
      · exact h.lasting id hlasting
      · obtain ⟨text, htext, rfl⟩ := List.mem_map.mp hnew
        obtain ⟨carrier, hcarrier, rfl⟩ := List.mem_map.mp htext
        by_cases hvalid : carrier.Valid
        · exact .inr ⟨carrier, hcarrier, hvalid, rfl⟩
        · exact h.known carrier hcarrier hvalid
    · rw [hrefs]
      exact Distinct.append_eraseDups_removeAll_iff.mpr h.refs

/-- For a span that has not extracted anything, in a segment that still has its own trace id, the
carriers decide. -/
theorem harmless_of_new_iff {segment : Segment} (hnew : segment.relatedTraces = [⟨.NewID, own⟩]) :
    Harmless own limit carriers segment [] ↔
      (∀ carrier ∈ carriers, carrier.Valid → carrier.Numbered limit) ∧
      (∀ carrier ∈ carriers, carrier.traceId ≠ "") ∧
      (∀ carrier ∈ carriers, ¬ carrier.Valid → carrier.traceId = own ∨
        ∃ carrier' ∈ carriers, carrier'.Valid ∧ carrier'.traceId = carrier.traceId) ∧
      ∀ carrier ∈ carriers.head?, carrier.traceId =
        ((carriers.filter (·.Valid)).head?.map Carrier.traceId).getD own := by
  cases carriers with
  | nil =>
      have hlasting : segment.lasting [] = [⟨.NewID, own⟩] := hnew
      constructor
      · intro _
        simp
      · intro _
        refine ⟨by simp, by simp, by simp, ?_, ?_, List.nil_prefix⟩
        · simp [hlasting]
        · simp [hlasting]
  | cons carrier rest =>
      have hlasting : segment.lasting (carrier :: rest) = [] := by
        rw [Segment.lasting, hnew]
        rfl
      constructor
      · intro h
        refine ⟨h.numbered, h.named, h.known, ?_⟩
        have hfirst := h.first
        rw [hlasting] at hfirst
        intro carrier' hcarrier
        obtain rfl := Option.some.inj hcarrier
        exact Option.some.inj hfirst
      · rintro ⟨hnumbered, hnamed, hknown, hfirst⟩
        refine ⟨hnumbered, hnamed, hknown, ?_, ?_, List.nil_prefix⟩
        · rw [hlasting]
          exact fun id hid => absurd hid List.not_mem_nil
        · rw [hlasting]
          exact congrArg some (hfirst carrier rfl)

def consumerActions : List ApiAction :=
  [.getContext 0 true, .newSpan 0 0 ⟨false, false⟩ (.newEntrySpan "consume" none none),
    .start 0 0]

/-- An entry span in a segment with the generated trace id `aa`. -/
def Consuming (w : World) : Prop :=
  (w.span 0).cls = .EntrySpan ∧ 0 < w.spans.size ∧
    (w.context (w.span 0).context).noop = false ∧ (w.span 0).refs = [] ∧
    (w.context (w.span 0).context).segment.relatedTraces = [⟨.NewID, "aa"⟩] ∧ w.uuids = 2

instance : DecidablePred Consuming := fun w =>
  inferInstanceAs (Decidable ((w.span 0).cls = .EntrySpan ∧ 0 < w.spans.size ∧
    (w.context (w.span 0).context).noop = false ∧ (w.span 0).refs = [] ∧
    (w.context (w.span 0).context).segment.relatedTraces = [⟨.NewID, "aa"⟩] ∧ w.uuids = 2))

theorem undrawn_sample {own : String} {carriers : List Carrier} {w : World}
    (hown : own.length ≤ w.uuids)
    (hother : ∀ carrier ∈ carriers, ∃ c ∈ carrier.traceId.toList, c ≠ 'a') :
    Undrawn .sample own carriers w := by
  intro n hn
  constructor
  · intro hsame
    have hlength := congrArg String.length hsame
    simp only [Env.sample, String.length_ofList, List.length_replicate] at hlength
    omega
  · intro carrier hcarrier hsame
    obtain ⟨c, hc, hne⟩ := hother carrier hcarrier
    rw [hsame] at hc
    simp only [Env.sample, String.toList_ofList] at hc
    exact hne (List.eq_of_mem_replicate hc)

/-- The second record names the same trace, but not its span. -/
theorem batch_of_one_trace :
    ∃ w, Reachable .sample w ∧ Consuming w ∧
      (KeepsIdentity "aa" 4300 0 [Carrier.numberedBy "3", Carrier.numberedBy ""]
          (Span.extractAll .sample 4300 0 [Carrier.numberedBy "3", Carrier.numberedBy ""] w) ↔
        Harmless "aa" 4300 [Carrier.numberedBy "3", Carrier.numberedBy ""]
          (w.context (w.span 0).context).segment (w.span 0).refs) := by
  have hresult : ∃ w, Reachable .sample w ∧ Consuming w := by
    apply exists_reachable consumerActions
    decide +kernel
  obtain ⟨w, hreach, hconsuming⟩ := hresult
  refine ⟨w, hreach, hconsuming, ?_⟩
  obtain ⟨-, hspan, hreal, -, -, huuids⟩ := hconsuming
  apply batch_keeps_identity_iff .sample 4300 0 _ w "aa" hreach hspan hreal
  apply undrawn_sample
  · rw [huuids]
    decide
  · intro carrier hcarrier
    obtain rfl | hcarrier := List.mem_cons.mp hcarrier
    · exact ⟨'t', by decide, by decide⟩
    · obtain rfl := List.mem_singleton.mp hcarrier
      exact ⟨'t', by decide, by decide⟩

/-- A record without headers takes the place of the generated id. -/
theorem empty_record_changes_trace :
    ∃ w, Reachable .sample w ∧ Consuming w ∧
      (SpanContext.traceId ((Span.extractAll .sample 4300 0 [Carrier.fresh 0] w).context
        (w.span 0).context)) = some "aaa" ∧
      ¬ KeepsIdentity "aa" 4300 0 [Carrier.fresh 0]
        (Span.extractAll .sample 4300 0 [Carrier.fresh 0] w) := by
  have hresult : ∃ w, Reachable .sample w ∧ Consuming w ∧
      (SpanContext.traceId ((Span.extractAll .sample 4300 0 [Carrier.fresh 0] w).context
        (w.span 0).context)) = some "aaa" := by
    apply exists_reachable consumerActions
    decide +kernel
  obtain ⟨w, hreach, hconsuming, htrace⟩ := hresult
  refine ⟨w, hreach, hconsuming, htrace, fun h => ?_⟩
  have hfirst := h.first
  rw [extractAll_context, htrace] at hfirst
  exact absurd hfirst (by decide)

end SkyWalking
