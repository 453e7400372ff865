import SkyWalking.Proof.ApiLemmas
import SkyWalking.Proof.BatchLemmas
import SkyWalking.Proof.Extraction
import SkyWalking.Trace.LogTimes

/-!
# Logs and the times of their spans

Every log carries the same time, so a log is within its span only if the span was entered in that
millisecond.
-/

namespace SkyWalking

open World

variable {env : Env} {w w' w'' : World}

theorem millis_mono {a b : ℚ} (h : a ≤ b) : millis a ≤ millis b := by
  have hscaled : a * 1000 ≤ b * 1000 := by linarith
  unfold millis
  split
  · next ha =>
    rw [if_pos (ha.trans h)]
    exact Int.floor_le_floor hscaled
  · next ha =>
    split
    · next hb =>
      have hleft : ⌈a * 1000⌉ ≤ 0 := Int.ceil_le.mpr (by push_cast; linarith)
      have hright : 0 ≤ ⌊b * 1000⌋ := Int.floor_nonneg.mpr (by linarith)
      exact hleft.trans hright
    · exact Int.ceil_le_ceil hscaled

/-- What the times and the logs of a span depend on. -/
def Span.timing (span : Span) : SpanClass × Nat × Int × List Log × Int × Int :=
  (span.cls, span.context, span.depth, span.logs, span.startTime, span.endTime)

/-- Between `w` and `w'` new spans and new contexts were created, and the old ones were neither entered,
left nor logged to. -/
structure Timeless (w w' : World) : Prop where
  now : w'.now = w.now
  size_le : w.spans.size ≤ w'.spans.size
  contexts_le : w.contexts.size ≤ w'.contexts.size
  old : ∀ s < w.spans.size, (w'.span s).timing = (w.span s).timing
  new : ∀ s < w'.spans.size, w.spans.size ≤ s → (w'.span s).depth = 0 ∧ (w'.span s).logs = []
  recorded : ∀ c, (w'.context c).segment.spans = (w.context c).segment.spans ∨
    w.contexts.size ≤ c ∧ (w'.context c).segment.spans = []

namespace Timeless

theorem of_eq (hnow : w'.now = w.now) (hspans : w'.spans = w.spans)
    (hcontexts : w'.contexts = w.contexts) : Timeless w w' where
  now := hnow
  size_le := by rw [hspans]
  contexts_le := by rw [hcontexts]
  old s _ := by rw [World.span, hspans]; rfl
  new s hs hge := by
    rw [hspans] at hs
    omega
  recorded c := by
    rw [World.context, hcontexts]
    exact .inl rfl

theorem refl (w : World) : Timeless w w := of_eq rfl rfl rfl

theorem trans (h : Timeless w w') (h' : Timeless w' w'') : Timeless w w'' where
  now := h'.now.trans h.now
  size_le := h.size_le.trans h'.size_le
  contexts_le := h.contexts_le.trans h'.contexts_le
  old s hs := (h'.old s (hs.trans_le h.size_le)).trans (h.old s hs)
  new s hs hge := by
    by_cases hmid : s < w'.spans.size
    · obtain ⟨hdepth, hlogs⟩ := h.new s hmid hge
      have hold := h'.old s hmid
      simp only [Span.timing, Prod.mk.injEq] at hold
      exact ⟨hold.2.2.1.trans hdepth, hold.2.2.2.1.trans hlogs⟩
    · exact h'.new s hs (not_lt.mp hmid)
  recorded c := by
    obtain hlast | ⟨hge, hempty⟩ := h'.recorded c
    · rw [hlast]
      exact h.recorded c
    · exact .inr ⟨h.contexts_le.trans hge, hempty⟩

/-- A step that touches neither spans nor contexts. -/
theorem then_eq (h : Timeless w w') (hnow : w''.now = w'.now) (hspans : w''.spans = w'.spans)
    (hcontexts : w''.contexts = w'.contexts) : Timeless w w'' :=
  h.trans (of_eq hnow hspans hcontexts)

theorem modifySpan (s : Nat) {f : Span → Span} (hsame : ∀ span, (f span).timing = span.timing) :
    Timeless w (w.modifySpan s f) where
  now := rfl
  size_le := le_refl _
  contexts_le := le_refl _
  old x _ := by
    simp only [World.span, World.modifySpan, Store.get_modify]
    split
    · exact hsame _
    · rfl
  new x hx hge := absurd hx (not_lt.mpr hge)
  recorded c := .inl rfl

theorem modifyContext (c : Nat) {f : SpanContext → SpanContext}
    (hsame : ∀ context, (f context).segment.spans = context.segment.spans) :
    Timeless w (w.modifyContext c f) where
  now := rfl
  size_le := le_refl _
  contexts_le := le_refl _
  old x _ := rfl
  new x hx hge := absurd hx (not_lt.mpr hge)
  recorded x := by
    simp only [World.context, World.modifyContext, Store.get_modify]
    split
    · exact .inl (hsame _)
    · exact .inl rfl

theorem allocSpan {span : Span} (hdepth : span.depth = 0) (hlogs : span.logs = [])
    (hnow : w'.now = w.now) (hspans : w'.spans = w.spans.alloc span)
    (hcontexts : w'.contexts = w.contexts) : Timeless w w' where
  now := hnow
  size_le := by
    rw [hspans, Store.size_alloc]
    omega
  contexts_le := by rw [hcontexts]
  old s hs := by
    rw [World.span, hspans, Store.get_alloc_of_lt _ _ hs]
    rfl
  new s hs hge := by
    rw [hspans, Store.size_alloc] at hs
    have hlast : s = w.spans.size := by omega
    rw [World.span, hspans, hlast, Store.get_alloc_size]
    exact ⟨hdepth, hlogs⟩
  recorded c := by
    rw [World.context, hcontexts]
    exact .inl rfl

theorem allocContext {context : SpanContext} (hempty : context.segment.spans = [])
    (hnow : w'.now = w.now) (hspans : w'.spans = w.spans)
    (hcontexts : w'.contexts = w.contexts.alloc context) : Timeless w w' where
  now := hnow
  size_le := by rw [hspans]
  contexts_le := by
    rw [hcontexts, Store.size_alloc]
    omega
  old s _ := by rw [World.span, hspans]; rfl
  new s hs hge := by
    rw [hspans] at hs
    omega
  recorded c := by
    rw [World.context, hcontexts, Store.get_alloc]
    split
    · next heq => exact .inr ⟨heq.ge, hempty⟩
    · exact .inl rfl

theorem spansGet (task : Nat) (w : World) : Timeless w (w.spansGet task) := by
  refine of_eq ?_ (spansGet_spans w task) (spansGet_contexts w task)
  unfold World.spansGet
  split <;> rfl

theorem newContext (env : Env) (w : World) : Timeless w (SpanContext.new env w).1 := allocContext rfl rfl rfl rfl

theorem newNoop (w : World) : Timeless w (SpanContext.newNoop w).1 := allocContext rfl rfl rfl rfl

theorem spanNewNoop (c : Nat) (w : World) : Timeless w (Span.newNoop c w).1 :=
  allocSpan rfl rfl rfl rfl rfl

theorem getContext (task : Nat) (sampled : Bool) (w : World) :
    Timeless w (getContext env task sampled w).1 := by
  have hget := spansGet task w
  unfold SkyWalking.getContext
  dsimp only
  split
  · exact hget
  · split
    · exact hget.trans (newContext env _)
    · exact hget.trans (newNoop _)

theorem relate (c : Nat) (traceId : ID) : Timeless w (w.modifyContext c (SpanContext.relate traceId)) :=
  modifyContext c fun context => relate_spans context.segment traceId

theorem idOf (env : Env) (rawId : String) (w : World) : Timeless w (Span.idOf env rawId w).1 := by
  refine of_eq ?_ (idOf_spans env rawId w) (idOf_contexts env rawId w)
  unfold Span.idOf
  split <;> rfl

theorem addRef (s : Nat) (ref : SegmentRef) : Timeless w (w.modifySpan s (Span.addRef ref)) :=
  modifySpan s fun _ => rfl

theorem extractReal (span : Nat) (carrier : Carrier) (w : World) :
    Timeless w (Span.extractReal env span carrier w).1 := by
  have hrelated : Timeless w (related env span carrier w) := by
    have hlinked := (idOf env carrier.traceId w).trans
      (relate (w.span span).context (Span.idOf env carrier.traceId w).2)
    exact hlinked.trans (modifyContext _ fun _ => rfl)
  rw [← extractWithin_zero]
  exact extractWithin_rule hrelated fun ref => hrelated.trans (addRef span ref)

theorem newSpan (env : Env) (self : Nat) (parent : Option Nat) (cls : SpanClass) (op : String)
    (peer : Option String) (component : Option Component) (w : World) :
    Timeless w (SpanContext.newSpan env self parent cls op peer component w).1 := by
  cases hfinished : SpanContext.isFinished parent w with
  | false =>
      rw [newSpan_of_not_finished env w self parent cls op peer component hfinished]
      have hnext : Timeless w (w.modifyContext self SpanContext.nextSid) :=
        modifyContext self fun _ => rfl
      exact hnext.trans (allocSpan rfl rfl rfl rfl rfl)
  | true =>
      cases parent with
      | none => cases hfinished
      | some parent =>
          have hdepth : (w.span parent).depth = 0 := by
            simpa [SpanContext.isFinished] using hfinished
          rw [newSpan_of_finished env w self cls op peer component hdepth]
          have hnext := (newContext env w).trans
            (modifyContext w.contexts.size (f := SpanContext.nextSid) fun _ => rfl)
          have halloc : Timeless w (Span.alloc (Span.create cls w.contexts.size 0 (-1) op peer component)
              ((SpanContext.new env w).1.modifyContext w.contexts.size SpanContext.nextSid)).1 :=
            hnext.trans (allocSpan rfl rfl rfl rfl rfl)
          exact halloc.trans (extractReal _ _ _)

theorem ignored (w : World) :
    Timeless w (Span.newNoop w.contexts.size (SpanContext.newNoop w).1).1 :=
  (newNoop w).trans (spanNewNoop _ _)

theorem call (task self : Nat) (answers : Answers) (call : Call) (w : World) :
    Timeless w (call.run env task self answers w).1 := by
  have hget := spansGet task w
  cases call with
  | newLocalSpan op =>
      exact newLocalSpan_rule env task self answers op (spanNewNoop self w) (refl w) (ignored w)
        (hget.trans (newSpan env self _ .Span op none none _))
  | newEntrySpan op carrier inherit =>
      have hnew := hget.trans (newSpan env self (w.view task).getLast? .EntrySpan op none
        none _)
      refine newEntrySpan_rule env task self answers op carrier inherit (spanNewNoop self w) (refl w)
        (ignored w) (fun parent => hget.trans (modifySpan parent fun _ => rfl)) hnew ?_
      intro a span w' _ heq _
      rw [heq] at hnew
      exact hnew.trans (extractReal span _ w')
  | newExitSpan op peer component inherit =>
      refine newExitSpan_rule env task self answers op peer component inherit (spanNewNoop self w)
        (refl w) (ignored w) (fun parent => hget.trans (modifySpan parent fun _ => rfl))
        (hget.trans (newSpan env self _ .ExitSpan op peer component _)) ?_
      intro w' span inherit h
      exact h.trans (modifySpan span fun _ => rfl)

theorem inject (span : Nat) (w : World) : Timeless w (Span.inject env span w).1 := by
  unfold Span.inject
  split <;> exact of_eq rfl rfl rfl

theorem extract (span : Nat) (carrier : Carrier) (w : World) :
    Timeless w (Span.extract env span carrier w).1 := by
  unfold Span.extract
  split
  · exact refl w
  · exact extractReal span carrier w

theorem capture (task self : Nat) (w : World) :
    Timeless w (SpanContext.capture task self w).1 := by
  have hget := spansGet task w
  unfold SpanContext.capture
  dsimp only
  split
  · exact of_eq rfl rfl rfl
  · split
    · exact hget
    · exact hget.then_eq rfl rfl rfl

theorem isFromCurrent (task self : Nat) (snapshot : Snapshot) (w : World) :
    Timeless w (SpanContext.isFromCurrent task self snapshot w).1 := by
  have hcapture := capture task self w
  unfold SpanContext.isFromCurrent
  split
  · exact refl w
  · split <;> next heq =>
      rw [heq] at hcapture
      exact hcapture

theorem continued (task self snapshot : Nat) (w : World) :
    Timeless w (SpanContext.continued env task self snapshot w).1 := by
  have hcurrent := isFromCurrent task self (w.snapshots.get snapshot) w
  unfold SpanContext.continued
  dsimp only
  split
  · exact of_eq rfl rfl rfl
  · split
    · next heq =>
      rw [heq] at hcurrent
      exact hcurrent
    · next heq =>
      rw [heq] at hcurrent
      exact hcurrent
    · next w₁ heq =>
      rw [heq] at hcurrent
      split
      · split
        · exact hcurrent
        · next ref _ =>
          split
          · exact hcurrent
          · next span _ =>
            have hlinked := (hcurrent.trans (addRef span ref)).trans
              (idOf env ref.traceId _)
            have hrelated := hlinked.trans (relate self (Span.idOf env ref.traceId
              (w₁.modifySpan span (Span.addRef ref))).2)
            exact hrelated.then_eq rfl rfl rfl
      · exact hcurrent

theorem tag (s : Nat) (value : Tag) (w : World) : Timeless w (Span.tag value s w).1 := by
  unfold Span.tag
  split
  · exact refl w
  · exact modifySpan s fun _ => rfl

/-- Only four kinds of calls have to do with times. -/
theorem action (w : World) {action : ApiAction} (hlog : action.logs = none)
    (hstart : ∀ task span, action ≠ .start task span)
    (hstop : ∀ task span queueFull, action ≠ .stop task span queueFull)
    (hwait : ∀ seconds, action ≠ .wait seconds) : Timeless w (action.run env w) := by
  cases action with
  | spawn creator child => exact of_eq rfl rfl rfl
  | thread child => exact of_eq rfl rfl rfl
  | getContext task sampled => exact getContext task sampled w
  | newSpan task self answers request => exact call task self answers request w
  | start task span => exact absurd rfl (hstart task span)
  | stop task span queueFull => exact absurd rfl (hstop task span queueFull)
  | raised span traceback => cases hlog
  | edit span change =>
      cases change with
      | tag value => exact tag span value w
      | log text => cases hlog
      | _ => exact modifySpan span fun _ => rfl
  | inject span => exact inject span w
  | receive sw8 correlation => exact of_eq rfl rfl rfl
  | extract span carrier => exact extract span _ w
  | putCorrelation self key value => exact of_eq rfl rfl rfl
  | capture task self => exact capture task self w
  | continued task self snapshot => exact continued task self snapshot w
  | wait seconds => exact absurd rfl (hwait seconds)

end Timeless

/-- A span after `start`. -/
def Span.afterStart (now : ℚ) (span : Span) : Span :=
  let opened := if span.depth = 0 then span.entered.startedAt now else span.entered
  if span.cls = .EntrySpan then opened.restarted else opened

theorem start_spans (task s : Nat) (w : World) :
    (Span.start task s w).spans = w.spans.modify s (Span.afterStart w.now) := by
  have hspan : (w.modifySpan s Span.entered).span s = (w.span s).entered := by
    simp [World.span, World.modifySpan]
  have hentry : ∀ w' : World, (if (w'.span s).cls = .EntrySpan then w'.modifySpan s Span.restarted
      else w').spans = w'.spans.modify s fun span =>
        if span.cls = .EntrySpan then span.restarted else span := by
    intro w'
    split
    · next hcls =>
      exact Store.modify_congr _ _ (if_pos hcls).symm
    · next hcls =>
      refine Eq.trans ?_ (Store.modify_congr w'.spans s (f := id) (if_neg hcls).symm)
      simp [Store.modify, Store.set, Store.get]
  unfold Span.start
  dsimp only
  rw [hentry, hspan]
  by_cases hzero : (w.span s).depth = 0
  · rw [if_pos (by simp [Span.entered, hzero])]
    obtain ⟨primary, hstart⟩ := SpanContext.start_eq task
      (((w.modifySpan s Span.entered).modifySpan s (Span.startedAt w.now)).span s).context s
      ((w.modifySpan s Span.entered).modifySpan s (Span.startedAt w.now))
    rw [show (w.modifySpan s Span.entered).now = w.now from rfl, hstart]
    simp only [World.bindList, World.modifyContext, World.modifySpan, Store.modify_modify]
    apply Store.modify_congr
    simp only [Span.afterStart, if_pos (show (w.spans.get s).depth = 0 from hzero)]
    rfl
  · rw [if_neg (by simp only [Span.entered]; omega)]
    simp only [World.modifySpan, Store.modify_modify]
    apply Store.modify_congr
    simp only [Span.afterStart, if_neg (show ¬ (w.spans.get s).depth = 0 from hzero)]
    rfl

theorem contextStart_now (task c s : Nat) (w : World) : (SpanContext.start task c s w).now = w.now := by
  obtain ⟨primary, hstart⟩ := SpanContext.start_eq task c s w
  rw [hstart]
  rfl

theorem start_now (task s : Nat) (w : World) : (Span.start task s w).now = w.now := by
  unfold Span.start
  dsimp only
  split
  · split
    · exact contextStart_now task _ s _
    · exact contextStart_now task _ s _
  · split <;> rfl

/-- Leaving a span for the last time sets its end, if it is a real one. -/
theorem contextStop_spans (task c s : Nat) (queueFull : Bool) (w : World) :
    (SpanContext.stop task c s queueFull w).1.spans =
      if (w.context c).noop then w.spans else w.spans.modify s (Span.endedAt w.now) := by
  cases hnoop : (w.context c).noop with
  | true =>
      rw [SpanContext.stop_of_noop task c s queueFull w hnoop]
      rfl
  | false =>
      rw [SpanContext.stop_of_real task c s queueFull w hnoop, SpanContext.left_eq]
      dsimp only
      split <;> rfl

theorem contextStop_now (task c s : Nat) (queueFull : Bool) (w : World) :
    (SpanContext.stop task c s queueFull w).1.now = w.now := by
  cases hnoop : (w.context c).noop with
  | true =>
      rw [SpanContext.stop_of_noop task c s queueFull w hnoop]
      rfl
  | false =>
      rw [SpanContext.stop_of_real task c s queueFull w hnoop, SpanContext.left_eq]
      dsimp only
      split <;> rfl

theorem stop_now (task s : Nat) (queueFull : Bool) (w : World) :
    (Span.stop task s queueFull w).1.now = w.now := by
  unfold Span.stop
  dsimp only
  split
  · exact contextStop_now task _ s queueFull _
  · rfl

/-- A span after `stop`, where `ends` says that its last user has left a real one. -/
def Span.afterStop (now : ℚ) (ends : Bool) (span : Span) : Span :=
  if ends then span.left.endedAt now else span.left

theorem stop_spans (task s : Nat) (queueFull : Bool) (w : World) :
    (Span.stop task s queueFull w).1.spans = w.spans.modify s (Span.afterStop w.now
      ((w.span s).depth = 1 ∧ (w.context (w.span s).context).noop = false)) := by
  have hspan : (w.modifySpan s Span.left).span s = (w.span s).left := by
    simp [World.span, World.modifySpan]
  unfold Span.stop
  dsimp only
  rw [hspan]
  by_cases hone : (w.span s).depth = 1
  · rw [if_pos (by simp [Span.left, hone]), contextStop_spans]
    have hcontext : (w.modifySpan s Span.left).context (w.span s).left.context =
        w.context (w.span s).context := rfl
    rw [hcontext]
    cases hnoop : (w.context (w.span s).context).noop with
    | true =>
        rw [if_pos rfl]
        apply Store.modify_congr
        simp [Span.afterStop]
    | false =>
        rw [if_neg (by simp)]
        simp only [World.modifySpan, Store.modify_modify]
        apply Store.modify_congr
        simp [Span.afterStop, hone]
  · rw [if_neg (by simp only [Span.left]; omega)]
    apply Store.modify_congr
    simp [Span.afterStop, hone]

/-- A real context records the span when its last user leaves. -/
theorem segment_spans_stop (task s c : Nat) (queueFull : Bool) (w : World) :
    ((Span.stop task s queueFull w).1.context c).segment.spans =
      if (w.span s).depth = 1 ∧ c = (w.span s).context ∧ (w.context c).noop = false then
        (w.context c).segment.spans ++ [s]
      else (w.context c).segment.spans := by
  have hledger := congrArg (fun l => (l.context c).spans) (ledger_stop task s queueFull w)
  have hspans : ((w.ledger.stop s).context c).spans =
      if (w.span s).depth = 1 ∧ c = (w.span s).context then
        if (w.context c).noop then (w.context c).segment.spans
        else (w.context c).segment.spans ++ [s]
      else (w.context c).segment.spans := by
    rw [Ledger.context_stop]
    exact apply_ite Ledger.Context.spans _ _ _
  refine hledger.trans (hspans.trans ?_)
  by_cases hlast : (w.span s).depth = 1 ∧ c = (w.span s).context
  · rw [if_pos hlast]
    cases hnoop : (w.context c).noop with
    | true => simp
    | false => simp [hlast]
  · rw [if_neg hlast, if_neg fun h => hlast ⟨h.1, h.2.1⟩]

structure Timed (env : Env) (w : World) : Prop where
  stamped : ∀ s < w.spans.size, ∀ log ∈ (w.span s).logs, log.timestamp = env.importTime
  prompt : ∀ s < w.spans.size, (w.span s).cls ≠ .NoopSpan → (w.span s).logs ≠ [] →
    (w.span s).startTime = millis env.importTime
  started : ∀ s < w.spans.size, (w.span s).cls ≠ .NoopSpan → 0 < (w.span s).depth →
    (w.span s).startTime ≤ millis w.now
  depth_nonneg : ∀ s < w.spans.size, 0 ≤ (w.span s).depth
  fresh : ∀ s < w.spans.size, (w.span s).cls ≠ .NoopSpan → (w.span s).depth = 0 →
    s ∉ (w.context (w.span s).context).segment.spans → (w.span s).logs = []
  recorded : ∀ c, ∀ s ∈ (w.context c).segment.spans, s < w.spans.size ∧
    (w.span s).cls ≠ .NoopSpan ∧ (w.span s).context = c ∧ (w.span s).depth = 0 ∧
    (w.span s).startTime ≤ (w.span s).endTime

namespace Timed

theorem imported (env : Env) : Timed env (.imported env) where
  stamped s hs := absurd hs (Nat.not_lt_zero s)
  prompt s hs := absurd hs (Nat.not_lt_zero s)
  started s hs := absurd hs (Nat.not_lt_zero s)
  depth_nonneg s hs := absurd hs (Nat.not_lt_zero s)
  fresh s hs := absurd hs (Nat.not_lt_zero s)
  recorded _ _ hs := absurd hs List.not_mem_nil

/-- Logs of the one time are in order, and within the span if that is its first millisecond. -/
theorem logsWithin (h : Timed env w) : w.LogsWithin := by
  intro c _ s hs
  obtain ⟨hlt, hreal, -, -, hle⟩ := h.recorded c s hs
  refine ⟨fun log hlog => ?_, ?_⟩
  · have hstart := h.prompt s hlt hreal (List.ne_nil_of_mem hlog)
    rw [h.stamped s hlt log hlog, ← hstart]
    exact ⟨le_refl _, hle⟩
  · rw [List.pairwise_iff_forall_sublist]
    intro earlier later hsub
    have hearlier := h.stamped s hlt earlier (hsub.subset (by simp))
    have hlater := h.stamped s hlt later (hsub.subset (by simp))
    rw [hearlier, hlater]

theorem of_timeless (h : Timed env w) (hinv : w.ledger.Inv) (ht : Timeless w w') :
    Timed env w' := by
  have hcases : ∀ s < w'.spans.size, s < w.spans.size ∧ (w'.span s).timing = (w.span s).timing ∨
      (w'.span s).depth = 0 ∧ (w'.span s).logs = [] := by
    intro s hs
    by_cases hold : s < w.spans.size
    · exact .inl ⟨hold, ht.old s hold⟩
    · exact .inr (ht.new s hs (not_lt.mp hold))
  simp only [Span.timing, Prod.mk.injEq] at hcases
  constructor
  · intro s hs log hlog
    obtain ⟨hlt, -, -, -, hlogs, -⟩ | ⟨-, hlogs⟩ := hcases s hs
    · rw [hlogs] at hlog
      exact h.stamped s hlt log hlog
    · rw [hlogs] at hlog
      cases hlog
  · intro s hs hreal hne
    obtain ⟨hlt, hcls, -, -, hlogs, hstart, -⟩ | ⟨-, hlogs⟩ := hcases s hs
    · rw [hstart]
      exact h.prompt s hlt (hcls ▸ hreal) (hlogs ▸ hne)
    · exact absurd hlogs hne
  · intro s hs hreal hopen
    obtain ⟨hlt, hcls, -, hdepth, -, hstart, -⟩ | ⟨hdepth, -⟩ := hcases s hs
    · rw [hstart, ht.now]
      exact h.started s hlt (hcls ▸ hreal) (hdepth ▸ hopen)
    · omega
  · intro s hs
    obtain ⟨hlt, -, -, hdepth, -⟩ | ⟨hdepth, -⟩ := hcases s hs
    · rw [hdepth]
      exact h.depth_nonneg s hlt
    · exact hdepth.ge
  · intro s hs hreal hzero hnot
    obtain ⟨hlt, hcls, hcontext, hdepth, hlogs, -⟩ | ⟨-, hlogs⟩ := hcases s hs
    · rw [hlogs]
      refine h.fresh s hlt (hcls ▸ hreal) (hdepth ▸ hzero) ?_
      rw [hcontext] at hnot
      obtain hsame | ⟨hge, -⟩ := ht.recorded (w.span s).context
      · rwa [hsame] at hnot
      · exact absurd (hinv.context_lt s hlt) (not_lt.mpr hge)
    · exact hlogs
  · intro c s hs
    obtain hsame | ⟨-, hempty⟩ := ht.recorded c
    · rw [hsame] at hs
      obtain ⟨hlt, hreal, hcontext, hzero, hle⟩ := h.recorded c s hs
      have hold := ht.old s hlt
      simp only [Span.timing, Prod.mk.injEq] at hold
      obtain ⟨hcls, hcontext', hdepth, -, hstart, hend⟩ := hold
      rw [hcls, hcontext', hdepth, hstart, hend]
      exact ⟨hlt.trans_le ht.size_le, hreal, hcontext, hzero, hle⟩
    · rw [hempty] at hs
      cases hs

/-- Only the span `s` changes, and it is open afterwards. -/
theorem modify (h : Timed env w) {s : Nat} (f : Span → Span) (hspans : w'.spans = w.spans.modify s f)
    (hnow : w'.now = w.now)
    (hrecorded : ∀ c, (w'.context c).segment.spans = (w.context c).segment.spans)
    (hcls : (f (w.span s)).cls = (w.span s).cls)
    (hcontext : (f (w.span s)).context = (w.span s).context)
    (hstamped : ∀ log ∈ (f (w.span s)).logs, log.timestamp = env.importTime)
    (hprompt : (w.span s).cls ≠ .NoopSpan → (f (w.span s)).logs ≠ [] →
      (f (w.span s)).startTime = millis env.importTime)
    (hstarted : (w.span s).cls ≠ .NoopSpan → (f (w.span s)).startTime ≤ millis w.now)
    (hdepth : 0 ≤ (f (w.span s)).depth)
    (hopen : (w.span s).cls ≠ .NoopSpan → (f (w.span s)).depth ≠ 0)
    (hnot : (w.span s).cls ≠ .NoopSpan → (w.span s).depth = 0 →
      s ∉ (w.context (w.span s).context).segment.spans) : Timed env w' := by
  have hsize : w'.spans.size = w.spans.size := by rw [hspans, Store.size_modify]
  have hself : w'.span s = f (w.span s) := by
    rw [World.span, hspans, Store.get_modify_self]
    rfl
  have hother : ∀ x, x ≠ s → w'.span x = w.span x := by
    intro x hne
    rw [World.span, hspans, Store.get_modify_of_ne _ _ hne]
    rfl
  constructor
  · intro x hx
    by_cases heq : x = s
    · rw [heq, hself]
      exact hstamped
    · rw [hother x heq]
      exact h.stamped x (hsize ▸ hx)
  · intro x hx
    by_cases heq : x = s
    · rw [heq, hself, hcls]
      exact hprompt
    · rw [hother x heq]
      exact h.prompt x (hsize ▸ hx)
  · intro x hx
    rw [hnow]
    by_cases heq : x = s
    · rw [heq, hself, hcls]
      exact fun hreal _ => hstarted hreal
    · rw [hother x heq]
      exact h.started x (hsize ▸ hx)
  · intro x hx
    by_cases heq : x = s
    · rw [heq, hself]
      exact hdepth
    · rw [hother x heq]
      exact h.depth_nonneg x (hsize ▸ hx)
  · intro x hx
    by_cases heq : x = s
    · rw [heq, hself, hcls]
      exact fun hreal hzero => absurd hzero (hopen hreal)
    · rw [hother x heq, hrecorded]
      exact h.fresh x (hsize ▸ hx)
  · intro c x hx
    rw [hrecorded] at hx
    rw [hsize]
    have hold := h.recorded c x hx
    by_cases heq : x = s
    · subst heq
      obtain ⟨-, hreal, hown, hzero, -⟩ := hold
      exact absurd (hown ▸ hx) (hnot hreal hzero)
    · rw [hother x heq]
      exact hold

theorem start (h : Timed env w) (task : Nat) {s : Nat} (hs : s < w.spans.size)
    (hfresh : Nested w (.start task s)) : Timed env (Span.start task s w) := by
  have hlogs : ∀ log ∈ ((w.span s).afterStart w.now).logs, log ∈ (w.span s).logs := by
    intro log hlog
    unfold Span.afterStart at hlog
    dsimp only at hlog
    split at hlog
    · cases hlog
    · split at hlog <;> exact hlog
  have htime : ((w.span s).afterStart w.now).startTime =
      if (w.span s).depth = 0 then millis w.now else (w.span s).startTime := by
    unfold Span.afterStart
    dsimp only
    split <;> split <;> rfl
  have hdepth : ((w.span s).afterStart w.now).depth = (w.span s).depth + 1 := by
    unfold Span.afterStart
    dsimp only
    split <;> split <;> rfl
  have hnonneg := h.depth_nonneg s hs
  refine h.modify (s := s) (Span.afterStart w.now) (start_spans task s w) (start_now task s w)
    (fun c => segment_spans_start task s c w) ?_ ?_ ?_ ?_ ?_ ?_ ?_ hfresh
  · unfold Span.afterStart
    dsimp only
    split <;> split <;> rfl
  · unfold Span.afterStart
    dsimp only
    split <;> split <;> rfl
  · exact fun log hlog => h.stamped s hs log (hlogs log hlog)
  · intro hreal hne
    obtain ⟨log, hlog⟩ := List.exists_mem_of_ne_nil _ hne
    have hold : (w.span s).logs ≠ [] := List.ne_nil_of_mem (hlogs log hlog)
    rw [htime]
    split
    · next hzero => exact absurd (h.fresh s hs hreal hzero (hfresh hreal hzero)) hold
    · exact h.prompt s hs hreal hold
  · intro hreal
    rw [htime]
    split
    · exact le_refl _
    · exact h.started s hs hreal (by omega)
  · omega
  · intro _
    omega

/-- The last user leaves a real span: its end is read from the clock no earlier than its start. -/
theorem finish (h : Timed env w) {s : Nat} (hs : s < w.spans.size) (hone : (w.span s).depth = 1)
    (hreal : (w.span s).cls ≠ .NoopSpan)
    (hspans : w'.spans = w.spans.modify s (Span.afterStop w.now true)) (hnow : w'.now = w.now)
    (hrecorded : ∀ c, (w'.context c).segment.spans = if c = (w.span s).context then
      (w.context c).segment.spans ++ [s] else (w.context c).segment.spans) : Timed env w' := by
  have hsize : w'.spans.size = w.spans.size := by rw [hspans, Store.size_modify]
  have hself : w'.span s = (w.span s).left.endedAt w.now := by
    rw [World.span, hspans, Store.get_modify_self]
    rfl
  have hother : ∀ x, x ≠ s → w'.span x = w.span x := by
    intro x hne
    rw [World.span, hspans, Store.get_modify_of_ne _ _ hne]
    rfl
  have hmem : ∀ c x, x ∈ (w'.context c).segment.spans ↔
      x ∈ (w.context c).segment.spans ∨ x = s ∧ c = (w.span s).context := by
    intro c x
    rw [hrecorded]
    split
    · next hc => simp [hc]
    · next hc => simp [hc]
  constructor
  · intro x hx
    by_cases heq : x = s
    · rw [heq, hself]
      exact h.stamped s hs
    · rw [hother x heq]
      exact h.stamped x (hsize ▸ hx)
  · intro x hx
    by_cases heq : x = s
    · rw [heq, hself]
      exact h.prompt s hs
    · rw [hother x heq]
      exact h.prompt x (hsize ▸ hx)
  · intro x hx
    rw [hnow]
    by_cases heq : x = s
    · rw [heq, hself]
      intro _ hpos
      simp only [Span.endedAt, Span.left] at hpos
      omega
    · rw [hother x heq]
      exact h.started x (hsize ▸ hx)
  · intro x hx
    by_cases heq : x = s
    · rw [heq, hself]
      simp only [Span.endedAt, Span.left]
      omega
    · rw [hother x heq]
      exact h.depth_nonneg x (hsize ▸ hx)
  · intro x hx
    by_cases heq : x = s
    · rw [heq, hself]
      exact fun _ _ hnot => absurd ((hmem _ s).mpr (.inr ⟨rfl, rfl⟩)) hnot
    · rw [hother x heq]
      intro hcls hzero hnot
      exact h.fresh x (hsize ▸ hx) hcls hzero fun hold => hnot ((hmem _ x).mpr (.inl hold))
  · intro c x hx
    rw [hsize]
    obtain hold | ⟨rfl, hc⟩ := (hmem c x).mp hx
    · obtain ⟨hlt, hcls, hown, hzero, hle⟩ := h.recorded c x hold
      have hne : x ≠ s := by
        rintro rfl
        omega
      rw [hother x hne]
      exact ⟨hlt, hcls, hown, hzero, hle⟩
    · rw [hself]
      refine ⟨hs, hreal, hc.symm, ?_, h.started x hs hreal (by omega)⟩
      simp only [Span.endedAt, Span.left]
      omega

theorem stop (h : Timed env w) (hinv : w.ledger.Inv) (task : Nat) {s : Nat} (queueFull : Bool)
    (hs : s < w.spans.size) (hopen : 0 < (w.span s).depth) :
    Timed env (Span.stop task s queueFull w).1 := by
  have hnoop : (w.span s).cls = .NoopSpan ↔ (w.context (w.span s).context).noop = true := by
    rw [← toLedger_noop]
    exact Iff.of_eq (congrArg (· = true) (hinv.noop_eq s hs))
  have hrecorded := fun c => segment_spans_stop task s c queueFull w
  have hspans := stop_spans task s queueFull w
  have hnow := stop_now task s queueFull w
  by_cases hends : (w.span s).depth = 1 ∧ (w.context (w.span s).context).noop = false
  · rw [decide_eq_true hends] at hspans
    have hreal : (w.span s).cls ≠ .NoopSpan := by
      intro hcls
      rw [hnoop.mp hcls] at hends
      exact Bool.noConfusion hends.2
    refine h.finish hs hends.1 hreal hspans hnow fun c => ?_
    rw [hrecorded]
    by_cases hc : c = (w.span s).context
    · rw [if_pos ⟨hends.1, hc, hc ▸ hends.2⟩, if_pos hc]
    · rw [if_neg fun hall => hc hall.2.1, if_neg hc]
  · have hsame : ∀ c, ((Span.stop task s queueFull w).1.context c).segment.spans =
        (w.context c).segment.spans := by
      intro c
      rw [hrecorded, if_neg]
      rintro ⟨hone, rfl, hfalse⟩
      exact hends ⟨hone, hfalse⟩
    have hleft : ∀ span : Span, (span.afterStop w.now false).depth = span.depth - 1 := fun _ => rfl
    rw [decide_eq_false hends] at hspans
    refine h.modify (s := s) _ hspans hnow hsame rfl rfl
      (h.stamped s hs) (h.prompt s hs) (fun hreal => h.started s hs hreal hopen) ?_ ?_ ?_
    · rw [hleft]
      omega
    · intro hreal hzero
      rw [hleft] at hzero
      refine hends ⟨by omega, ?_⟩
      simpa using fun htrue => hreal (hnoop.mpr htrue)
    · intro _ hzero
      omega

/-- A log is put on an open span. -/
theorem addLog (h : Timed env w) {s : Nat} (hs : s < w.spans.size) (hopen : 0 < (w.span s).depth)
    (hprompt : (w.span s).cls ≠ .NoopSpan → (w.span s).startTime = millis env.importTime)
    (logs : List Log) (hlogs : ∀ log ∈ logs, log.timestamp = env.importTime) :
    Timed env (w.modifySpan s fun span => { span with errorOccurred := true, logs := logs }) := by
  refine h.modify (s := s) (fun span => { span with errorOccurred := true, logs := logs }) rfl rfl
    (fun _ => rfl) rfl rfl hlogs (fun hreal _ => hprompt hreal)
    (fun hreal => h.started s hs hreal hopen) hopen.le (fun _ => hopen.ne') ?_
  intro _ hzero
  omega

theorem log (h : Timed env w) {s : Nat} (hs : s < w.spans.size) (hopen : 0 < (w.span s).depth)
    (hprompt : (w.span s).cls ≠ .NoopSpan → (w.span s).startTime = millis env.importTime)
    (text : String) : Timed env (Span.log env text s w) := by
  have hstamped : ∀ log ∈ (w.span s).logs ++ [⟨env.importTime, [⟨"Traceback", text⟩]⟩],
      log.timestamp = env.importTime := by
    intro log hlog
    obtain hold | hnew := List.mem_append.mp hlog
    · exact h.stamped s hs log hold
    · rw [List.mem_singleton.mp hnew]
  have hspans : Span.log env text s w = w.modifySpan s fun span => { span with
      errorOccurred := true
      logs := (w.span s).logs ++ [⟨env.importTime, [⟨"Traceback", text⟩]⟩] } :=
    congrArg (fun spans => { w with spans := spans }) (Store.modify_congr _ _ rfl)
  rw [hspans]
  exact h.addLog hs hopen hprompt _ hstamped

theorem wait (h : Timed env w) {seconds : ℚ} (hforward : 0 ≤ seconds) :
    Timed env { w with now := w.now + seconds } where
  stamped := h.stamped
  prompt := h.prompt
  started s hs hreal hopen :=
    (h.started s hs hreal hopen).trans (millis_mono (le_add_of_nonneg_right hforward))
  depth_nonneg := h.depth_nonneg
  fresh := h.fresh
  recorded := h.recorded

theorem action (h : Timed env w) (hinv : w.ledger.Inv) {action : ApiAction}
    (henabled : action.Enabled w) (hnested : Nested w action) (hprompt : Prompt env w action) :
    Timed env (action.run env w) := by
  cases action with
  | start task span => exact h.start task henabled hnested
  | stop task span queueFull => exact h.stop hinv task queueFull henabled hnested
  | raised span traceback =>
      exact h.addLog henabled hnested (hprompt span rfl) [⟨env.importTime, _⟩] (by simp)
  | edit span change =>
      cases change with
      | log text => exact h.log henabled hnested (hprompt span rfl) text
      | _ => exact h.of_timeless hinv (.action w rfl (by simp) (by simp) (by simp))
  | wait seconds => exact h.wait hnested
  | _ => exact h.of_timeless hinv (.action w rfl (by simp) (by simp) (by simp))

end Timed

theorem inv_imported (env : Env) : (World.imported env).ledger.Inv := sound_init.inv

/-- **Log times.** In a run in which logs are only made on spans that were entered in the millisecond in
which the package was imported, every log on an archived span lies within the span. -/
theorem logs_within_spans (env : Env) {actions : List ApiAction} {w : World}
    (hrun : Run (Guarded (fun w action => Nested w action ∧ Prompt env w action) (ApiStep env))
      (.imported env) actions w) : w.LogsWithin := by
  have hboth : w.ledger.Inv ∧ Timed env w := by
    refine hrun.invariant (I := fun w => w.ledger.Inv ∧ Timed env w) ?_
      ⟨inv_imported env, .imported env⟩
    rintro w action w' ⟨hinv, htimed⟩ ⟨⟨hnested, hprompt⟩, hstep⟩
    refine ⟨hstep.inv hinv, ?_⟩
    obtain ⟨henabled, rfl⟩ := hstep
    exact htimed.action hinv henabled hnested hprompt
  exact hboth.2.logsWithin

/-- A span that is entered right after the import is given two logs, an hour passes, and it is left. -/
def promptActions : List ApiAction :=
  [.getContext 0 true, .newSpan 0 0 ⟨false, false⟩ (.newLocalSpan "startup"), .start 0 0,
    .edit 0 (.log "first"), .wait 3600, .edit 0 (.log "second"), .stop 0 0 false]

theorem prompt_run_logs_within : ∃ w,
    Run (Guarded (fun w action => Nested w action ∧ Prompt .sample w action) (ApiStep .sample))
      (.imported .sample) promptActions w ∧
    w.archived = [0] ∧ ((w.span 0).logs.map Log.timestamp) = [0, 0] ∧ w.LogsWithin := by
  have htest : (runActions .sample (fun w action => Nested w action ∧ Prompt .sample w action)
      (.imported .sample) promptActions).any (fun w =>
        decide (w.archived = [0] ∧ ((w.span 0).logs.map Log.timestamp) = [0, 0])) = true := by
    decide +kernel
  obtain ⟨w, hw, hfinal⟩ := (Option.any_eq_true _ _).mp htest
  obtain ⟨harchived, hlogs⟩ := of_decide_eq_true hfinal
  have hrun := run_of_runActions _ _ promptActions hw
  exact ⟨w, hrun, harchived, hlogs, logs_within_spans .sample hrun⟩

/-- A second after the import a span is entered, and an exception is noted on it. -/
def lateActions : List ApiAction :=
  [.wait 1, .getContext 0 true, .newSpan 0 0 ⟨false, false⟩ (.newLocalSpan "late"), .start 0 0,
    .raised 0 "Traceback", .stop 0 0 false]

theorem late_log_before_its_span :
    ¬ ∀ (env : Env) (actions : List ApiAction) (w : World),
      Run (Guarded Nested (ApiStep env)) (.imported env) actions w → w.LogsWithin := by
  intro hall
  have htest : (runActions .sample Nested (.imported .sample) lateActions).any (fun w =>
      decide ¬ w.LogsWithin) = true := by
    decide +kernel
  obtain ⟨w, hw, hfinal⟩ := (Option.any_eq_true _ _).mp htest
  exact of_decide_eq_true hfinal (hall .sample lateActions w (run_of_runActions _ _ _ hw))

end SkyWalking
