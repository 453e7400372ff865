import SkyWalking.Proof.Chain

/-!
# Contexts that a call leaves alone
-/

namespace SkyWalking

open World

variable {env : Env} {w w' w'' : World}

/-- A context keeps its traces and its map. -/
def KeptAt (c : Nat) (w w' : World) : Prop :=
  (w'.context c).segment.relatedTraces = (w.context c).segment.relatedTraces ∧
    (w'.context c).correlation = (w.context c).correlation

/-- A span is created in the context that was asked or in a new one. -/
theorem newSpan_context (env : Env) {self : Nat} {parent : Option Nat} {cls : SpanClass}
    (hcls : cls ≠ .NoopSpan) {op : String} {peer : Option String} {component : Option Component}
    {span : Nat} (hspan : (SpanContext.newSpan env self parent cls op peer component w).2 = .ok span) :
    ((SpanContext.newSpan env self parent cls op peer component w).1.span span).context =
      if SpanContext.isFinished parent w then w.contexts.size else self := by
  have hnew := newSpan_ok env w self parent cls op peer component hspan
  have hcreated : ∀ (l : Ledger) (c : Nat) (pid : Int), l.spans.size = w.spans.size →
      (SpanContext.newSpan env self parent cls op peer component w).1.ledger = l.create c pid →
      ((SpanContext.newSpan env self parent cls op peer component w).1.span span).context = c := by
    intro l c pid hsize hledger
    have hcontext := congrArg (fun l => (l.span span).context) hledger
    rw [hnew, ← hsize] at hcontext ⊢
    exact hcontext.trans (by simp [Ledger.create, Ledger.span])
  cases hfinished : SpanContext.isFinished parent w with
  | false =>
      exact hcreated _ self _ rfl
        (ledger_newSpan_of_not_finished env w self parent cls op peer component hcls hfinished)
  | true =>
      cases parent with
      | none => cases hfinished
      | some parent =>
          have hdepth : (w.span parent).depth = 0 := by
            simpa [SpanContext.isFinished] using hfinished
          exact hcreated _ _ _ rfl
            (ledger_newSpan_of_finished env w self cls op peer component hcls hdepth)

theorem extractReal_carriers (env : Env) (span : Nat) (carrier : Carrier) (w : World) :
    (Span.extractReal env span carrier w).1.carriers = w.carriers := by
  have hid : (Span.idOf env carrier.traceId w).1.carriers = w.carriers := by
    unfold Span.idOf
    split <;> rfl
  unfold Span.extractReal
  dsimp only
  split
  · exact hid
  · exact hid
  · split
    · exact hid
    · split <;> exact hid

theorem newSpan_carriers (env : Env) (self : Nat) (parent : Option Nat) (cls : SpanClass)
    (op : String) (peer : Option String) (component : Option Component) :
    (SpanContext.newSpan env self parent cls op peer component w).1.carriers = w.carriers := by
  cases hfinished : SpanContext.isFinished parent w with
  | false => rw [newSpan_of_not_finished env w self parent cls op peer component hfinished]
  | true =>
      cases parent with
      | none => cases hfinished
      | some parent =>
          have hdepth : (w.span parent).depth = 0 := by
            simpa [SpanContext.isFinished] using hfinished
          rw [newSpan_of_finished env w self cls op peer component hdepth]
          exact extractReal_carriers env _ _ _

/-- The span that a carrier is extracted into belongs to the asked context or to a new one. -/
theorem newEntrySpan_target (env : Env) {task self : Nat} {op : String} {span : Nat}
    (heq : SpanContext.newSpan env self (w.view task).getLast? .EntrySpan op none none
      (w.spansGet task) = (w', .ok span)) :
    ((w'.span span).context =
        if SpanContext.isFinished (w.view task).getLast? w then w.contexts.size else self) ∧
      w'.carriers = w.carriers := by
  have hok : (SpanContext.newSpan env self (w.view task).getLast? .EntrySpan op none none
      (w.spansGet task)).2 = .ok span := congrArg Prod.snd heq
  have hcontext := newSpan_context env (by decide) hok
  have hcarriers := newSpan_carriers (w := w.spansGet task) env self (w.view task).getLast?
    .EntrySpan op none none
  rw [heq, isFinished_spansGet, spansGet_contexts] at hcontext
  rw [heq, spansGet_carriers] at hcarriers
  exact ⟨hcontext, hcarriers⟩

namespace KeptAt

variable {c : Nat}

theorem of_eq (h : w'.context c = w.context c) : KeptAt c w w' := by
  rw [KeptAt, h]
  exact ⟨rfl, rfl⟩

theorem refl (c : Nat) (w : World) : KeptAt c w w := ⟨rfl, rfl⟩

theorem trans (h : KeptAt c w w') (h' : KeptAt c w' w'') : KeptAt c w w'' :=
  ⟨h'.1.trans h.1, h'.2.trans h.2⟩

theorem modifyContext (c' : Nat) {f : SpanContext → SpanContext}
    (hf : ∀ context, (f context).segment.relatedTraces = context.segment.relatedTraces ∧
      (f context).correlation = context.correlation) :
    KeptAt c w (w.modifyContext c' f) := by
  unfold KeptAt
  simp only [World.context, World.modifyContext, Store.get_modify]
  split
  · exact hf _
  · exact ⟨rfl, rfl⟩

theorem modifyContext_of_ne {c' : Nat} (hne : c ≠ c') (f : SpanContext → SpanContext) :
    KeptAt c w (w.modifyContext c' f) :=
  of_eq (Store.get_modify_of_ne _ _ hne)

theorem spansGet (c task : Nat) (w : World) : KeptAt c w (w.spansGet task) :=
  of_eq (by simp only [World.context, spansGet_contexts])

theorem new (env : Env) (hc : c < w.contexts.size) : KeptAt c w (SpanContext.new env w).1 :=
  of_eq (Store.get_alloc_of_lt _ _ hc)

theorem newNoop (hc : c < w.contexts.size) : KeptAt c w (SpanContext.newNoop w).1 :=
  of_eq (Store.get_alloc_of_lt _ _ hc)

theorem getContext (env : Env) (task : Nat) (sampled : Bool) (hc : c < w.contexts.size) :
    KeptAt c w (getContext env task sampled w).1 := by
  have hsize := spansGet_contexts w task
  have hget := KeptAt.spansGet c task w
  rw [← hsize] at hc
  unfold SkyWalking.getContext
  dsimp only
  split
  · exact hget
  · split
    · exact hget.trans (new env hc)
    · exact hget.trans (newNoop hc)

theorem extractReal (env : Env) (span : Nat) (carrier : Carrier)
    (hne : c ≠ (w.span span).context) : KeptAt c w (Span.extractReal env span carrier w).1 := by
  have hid : KeptAt c w (Span.idOf env carrier.traceId w).1 := by
    unfold Span.idOf
    split <;> exact refl c _
  have hspan : ((Span.idOf env carrier.traceId w).1.span span).context = (w.span span).context := by
    unfold Span.idOf
    split <;> rfl
  have hbase : KeptAt c w (((Span.idOf env carrier.traceId w).1.modifyContext
      ((Span.idOf env carrier.traceId w).1.span span).context
      (SpanContext.relate (Span.idOf env carrier.traceId w).2)).modifyContext
      ((Span.idOf env carrier.traceId w).1.span span).context
      (SpanContext.withCorrelation carrier.correlation)) := by
    rw [hspan]
    exact (hid.trans (modifyContext_of_ne hne _)).trans (modifyContext_of_ne hne _)
  unfold Span.extractReal
  dsimp only
  split
  · exact hbase
  · exact hbase
  · split
    · exact hbase
    · split
      · exact hbase
      · exact hbase.trans (refl c _)

theorem newSpan (env : Env) (self : Nat) (parent : Option Nat) (cls : SpanClass) (op : String)
    (peer : Option String) (component : Option Component) (hc : c < w.contexts.size) :
    KeptAt c w (SpanContext.newSpan env self parent cls op peer component w).1 := by
  cases hfinished : SpanContext.isFinished parent w with
  | false =>
      rw [newSpan_of_not_finished env w self parent cls op peer component hfinished]
      exact modifyContext self fun _ => ⟨rfl, rfl⟩
  | true =>
      cases parent with
      | none => cases hfinished
      | some parent =>
          have hdepth : (w.span parent).depth = 0 := by
            simpa [SpanContext.isFinished] using hfinished
          have hspan := detached_span_new env w cls op peer component
          rw [newSpan_of_finished env w self cls op peer component hdepth]
          have hdetached : KeptAt c w (detached env cls op peer component w) :=
            of_eq (detached_context_of_lt env w cls op peer component hc)
          refine hdetached.trans (extractReal env _ _ ?_)
          rw [hspan]
          exact hc.ne

theorem ignored (hc : c < w.contexts.size) :
    KeptAt c w (Span.newNoop w.contexts.size (SpanContext.newNoop w).1).1 :=
  newNoop hc

theorem newSpan_top (env : Env) (task self : Nat) (cls : SpanClass) (op : String)
    (peer : Option String) (component : Option Component) (hc : c < w.contexts.size) :
    KeptAt c w (SpanContext.newSpan env self (w.view task).getLast? cls op peer component
      (w.spansGet task)).1 :=
  (spansGet c task w).trans
    (newSpan env self _ cls op peer component (by rwa [spansGet_contexts]))

theorem newLocalSpan (env : Env) (task self : Nat) (answers : Answers) (op : String)
    (hc : c < w.contexts.size) :
    KeptAt c w (SpanContext.newLocalSpan env task self answers op w).1 :=
  newLocalSpan_rule env task self answers op (refl c w) (refl c w) (ignored hc)
    (newSpan_top env task self .Span op none none hc)

theorem newEntrySpan (env : Env) (task : Nat) {self : Nat} (answers : Answers) (op : String)
    {carrier : Option Nat} (inherit : Option Component) (hc : c < w.contexts.size)
    (hnot : ∀ a, ¬ (ApiAction.newSpan task self answers (.newEntrySpan op carrier inherit)).Extracts
      w c a) :
    KeptAt c w (SpanContext.newEntrySpan env task self answers op carrier inherit w).1 := by
  have hnew := newSpan_top env task self .EntrySpan op none none hc
  refine newEntrySpan_made_rule env task self answers op carrier inherit (refl c w) (refl c w)
    (ignored hc) (fun _ => spansGet c task w) hnew ?_
  intro a span w' ha hmade heq hvalid
  obtain ⟨hcontext, hcarriers⟩ := newEntrySpan_target env heq
  rw [heq] at hnew
  rw [hcarriers] at hvalid ⊢
  refine hnew.trans (extractReal env _ _ fun hsame => hnot a ?_)
  exact ⟨⟨ha, hmade, hvalid⟩, hsame.trans hcontext⟩

theorem newExitSpan (env : Env) (task self : Nat) (answers : Answers) (op : String)
    (peer : Option String) (component inherit : Option Component) (hc : c < w.contexts.size) :
    KeptAt c w (SpanContext.newExitSpan env task self answers op peer component inherit w).1 :=
  newExitSpan_rule env task self answers op peer component inherit (refl c w) (refl c w) (ignored hc)
    (fun _ => spansGet c task w) (newSpan_top env task self .ExitSpan op peer component hc)
    (fun _ _ _ hkept => hkept)

end KeptAt

/-- Nothing changes that a carrier or a snapshot is made of. -/
structure Steady (w w' : World) : Prop where
  context : ∀ c, (w'.context c).noop = (w.context c).noop ∧
    (w'.context c).segment.segmentId = (w.context c).segment.segmentId ∧
    (w'.context c).segment.relatedTraces = (w.context c).segment.relatedTraces ∧
    (w'.context c).correlation = (w.context c).correlation
  span : ∀ s, (w'.span s).refs = (w.span s).refs ∧ (w'.span s).context = (w.span s).context
  dicts : w'.dicts = w.dicts
  snapshots : w'.snapshots = w.snapshots

namespace Steady

theorem refl (w : World) : Steady w w :=
  ⟨fun _ => ⟨rfl, rfl, rfl, rfl⟩, fun _ => ⟨rfl, rfl⟩, rfl, rfl⟩

theorem trans (h : Steady w w') (h' : Steady w' w'') : Steady w w'' where
  context c := by
    obtain ⟨hnoop, hid, htraces, hmap⟩ := h.context c
    obtain ⟨hnoop', hid', htraces', hmap'⟩ := h'.context c
    exact ⟨hnoop'.trans hnoop, hid'.trans hid, htraces'.trans htraces, hmap'.trans hmap⟩
  span s := ⟨(h'.span s).1.trans (h.span s).1, (h'.span s).2.trans (h.span s).2⟩
  dicts := h'.dicts.trans h.dicts
  snapshots := h'.snapshots.trans h.snapshots

theorem modifySpan (s : Nat) {f : Span → Span}
    (hf : ∀ span, (f span).refs = span.refs ∧ (f span).context = span.context) :
    Steady w (w.modifySpan s f) := by
  refine ⟨fun _ => ⟨rfl, rfl, rfl, rfl⟩, fun x => ?_, rfl, rfl⟩
  simp only [World.span, World.modifySpan, Store.get_modify]
  split
  · exact hf _
  · exact ⟨rfl, rfl⟩

theorem modifyContext (c : Nat) {f : SpanContext → SpanContext}
    (hf : ∀ context, (f context).noop = context.noop ∧
      (f context).segment.segmentId = context.segment.segmentId ∧
      (f context).segment.relatedTraces = context.segment.relatedTraces ∧
      (f context).correlation = context.correlation) :
    Steady w (w.modifyContext c f) := by
  refine ⟨fun x => ?_, fun _ => ⟨rfl, rfl⟩, rfl, rfl⟩
  simp only [World.context, World.modifyContext, Store.get_modify]
  split
  · exact hf _
  · exact ⟨rfl, rfl, rfl, rfl⟩

/-- Stacks, archived segments and the clock do not matter. -/
theorem of_stores (hcontexts : w'.contexts = w.contexts) (hspans : w'.spans = w.spans)
    (hdicts : w'.dicts = w.dicts) (hsnapshots : w'.snapshots = w.snapshots) : Steady w w' := by
  refine ⟨fun c => ?_, fun s => ?_, hdicts, hsnapshots⟩
  · simp only [World.context, hcontexts]
    exact ⟨trivial, trivial, trivial, trivial⟩
  · simp only [World.span, hspans]
    exact ⟨trivial, trivial⟩

theorem start (task s : Nat) (w : World) : Steady w (Span.start task s w) := by
  have hentered : Steady w (w.modifySpan s Span.entered) := modifySpan s fun _ => ⟨rfl, rfl⟩
  have hstarted : ∀ (w' : World) now, Steady w' (w'.modifySpan s (Span.startedAt now)) :=
    fun w' now => modifySpan s fun _ => ⟨rfl, rfl⟩
  have hcontext : ∀ c (w' : World), Steady w' (SpanContext.start task c s w') := by
    intro c w'
    obtain ⟨primary, heq⟩ := SpanContext.start_eq task c s w'
    have hup : Steady w' (w'.modifyContext c fun context => context.countUp.withPrimary primary) :=
      modifyContext c fun _ => ⟨rfl, rfl, rfl, rfl⟩
    rw [heq]
    exact hup.trans (of_stores rfl rfl rfl rfl)
  have hentry : ∀ w' : World, Steady w' (if (w'.span s).cls = .EntrySpan then
      w'.modifySpan s Span.restarted else w') := by
    intro w'
    split
    · exact modifySpan s fun _ => ⟨rfl, rfl⟩
    · exact refl w'
  unfold Span.start
  dsimp only
  refine trans ?_ (hentry _)
  split
  · exact (hentered.trans (hstarted _ _)).trans (hcontext _ _)
  · exact hentered

theorem stop (task s : Nat) (queueFull : Bool) (w : World) :
    Steady w (Span.stop task s queueFull w).1 := by
  have hleft : Steady w (w.modifySpan s Span.left) := modifySpan s fun _ => ⟨rfl, rfl⟩
  have hcontext : ∀ c (w' : World), Steady w' (SpanContext.stop task c s queueFull w').1 := by
    intro c w'
    cases hnoop : (w'.context c).noop with
    | true =>
        have hdown : Steady w' (w'.modifyContext c SpanContext.countDown) :=
          modifyContext c fun _ => ⟨rfl, rfl, rfl, rfl⟩
        rw [SpanContext.stop_of_noop task c s queueFull w' hnoop]
        exact hdown.trans (of_stores rfl rfl rfl rfl)
    | false =>
        have hended : Steady w' (w'.modifySpan s (Span.endedAt w'.now)) :=
          modifySpan s fun _ => ⟨rfl, rfl⟩
        have hclosed : Steady w' ((w'.modifySpan s (Span.endedAt w'.now)).modifyContext c
            fun context => (context.archiveSpan s).countDown) :=
          hended.trans (modifyContext c fun _ => ⟨rfl, rfl, rfl, rfl⟩)
        have hleft' : Steady w' (SpanContext.left task c s w') := by
          rw [SpanContext.left_eq]
          exact hclosed.trans (of_stores rfl rfl rfl rfl)
        rw [SpanContext.stop_of_real task c s queueFull w' hnoop]
        dsimp only
        split
        · have hlimited : Steady w' ((SpanContext.left task c s w').modifyContext c
              (SpanContext.sizeLimited queueFull)) :=
            hleft'.trans (modifyContext c fun _ => ⟨rfl, rfl, rfl, rfl⟩)
          exact hlimited.trans (of_stores rfl rfl rfl rfl)
        · exact hleft'
  unfold Span.stop
  dsimp only
  split
  · exact hleft.trans (hcontext _ _)
  · exact hleft

theorem tag (tag : Tag) (s : Nat) (w : World) : Steady w (Span.tag tag s w).1 := by
  unfold Span.tag
  split
  · exact refl w
  · exact modifySpan s fun _ => ⟨rfl, rfl⟩

theorem edit (env : Env) (s : Nat) (change : Edit) (w : World) :
    Steady w (change.run env s w).1 := by
  cases change with
  | tag value => exact tag value s w
  | op value => exact modifySpan s fun _ => ⟨rfl, rfl⟩
  | peer value => exact modifySpan s fun _ => ⟨rfl, rfl⟩
  | component value => exact modifySpan s fun _ => ⟨rfl, rfl⟩
  | layer value => exact modifySpan s fun _ => ⟨rfl, rfl⟩
  | log text => exact modifySpan s fun _ => ⟨rfl, rfl⟩

theorem keptAt (h : Steady w w') (c : Nat) : KeptAt c w w' :=
  ⟨(h.context c).2.2.1, (h.context c).2.2.2⟩

end Steady

theorem capture_contexts (task self : Nat) (w : World) :
    (SpanContext.capture task self w).1.contexts = w.contexts := by
  unfold SpanContext.capture
  dsimp only
  split
  · rfl
  · split
    · exact spansGet_contexts w task
    · exact spansGet_contexts w task

theorem isFromCurrent_contexts (task self : Nat) (snapshot : Snapshot) (w : World) :
    (SpanContext.isFromCurrent task self snapshot w).1.contexts = w.contexts := by
  have hcapture := capture_contexts task self w
  unfold SpanContext.isFromCurrent
  split
  · rfl
  · split <;> next heq =>
      rw [heq] at hcapture
      exact hcapture

/-- `continued` relates the context that it is called on, and leaves all maps where they are. -/
theorem continued_contexts (env : Env) (task self snapshot : Nat) (w : World) :
    (SpanContext.continued env task self snapshot w).1.contexts = w.contexts ∨
      ∃ traceId, (SpanContext.continued env task self snapshot w).1.contexts =
        w.contexts.modify self (SpanContext.relate traceId) := by
  have hcurrent := isFromCurrent_contexts task self (w.snapshots.get snapshot) w
  unfold SpanContext.continued
  dsimp only
  split
  · exact .inl rfl
  split
  · next heq =>
    rw [heq] at hcurrent
    exact .inl hcurrent
  · next heq =>
    rw [heq] at hcurrent
    exact .inl hcurrent
  · next w' heq =>
    rw [heq] at hcurrent
    dsimp only at hcurrent
    split
    · split
      · exact .inl hcurrent
      · next ref _ =>
        split
        · exact .inl hcurrent
        · next span _ =>
          right
          refine ⟨(Span.idOf env ref.traceId (w'.modifySpan span (Span.addRef ref))).2, ?_⟩
          rw [← hcurrent]
          unfold Span.idOf
          split <;> rfl
    · exact .inl hcurrent

theorem ApiAction.keptAt (env : Env) {action : ApiAction} {c : Nat} (hc : c < w.contexts.size)
    (hnot : ∀ carrier, ¬ action.Extracts w c carrier) :
    ((action.run env w).context c).correlation = (w.context c).correlation ∧
      (¬ action.Relates w c → KeptAt c w (action.run env w)) := by
  have hkept : KeptAt c w (action.run env w) →
      ((action.run env w).context c).correlation = (w.context c).correlation ∧
        (¬ action.Relates w c → KeptAt c w (action.run env w)) := fun h => ⟨h.2, fun _ => h⟩
  cases action with
  | continued task self snapshot =>
      rcases continued_contexts env task self snapshot w with heq | ⟨traceId, heq⟩
      · exact hkept (.of_eq (by simp only [ApiAction.run, World.context, heq]))
      · simp only [ApiAction.run, KeptAt, World.context, heq, Store.get_modify]
        split
        · next hself =>
          exact ⟨rfl, fun h => absurd (.inr ⟨task, snapshot, by rw [hself]⟩) h⟩
        · exact ⟨rfl, fun _ => ⟨rfl, rfl⟩⟩
  | getContext task sampled => exact hkept (.getContext env task sampled hc)
  | newSpan task self answers call =>
      refine hkept ?_
      cases call with
      | newLocalSpan op => exact .newLocalSpan env task self answers op hc
      | newEntrySpan op carrier inherit =>
          exact .newEntrySpan env task answers op inherit hc hnot
      | newExitSpan op peer component inherit =>
          exact .newExitSpan env task self answers op peer component inherit hc
  | start task span => exact hkept ((Steady.start task span w).keptAt c)
  | stop task span queueFull => exact hkept ((Steady.stop task span queueFull w).keptAt c)
  | edit span change => exact hkept ((Steady.edit env span change w).keptAt c)
  | inject span =>
      refine hkept (.of_eq ?_)
      simp only [ApiAction.run, Span.inject]
      split <;> rfl
  | extract span carrier =>
      refine hkept ?_
      simp only [ApiAction.run, Span.extract]
      split
      · exact .refl c w
      · next hreal => exact .extractReal env span _ fun heq => hnot carrier ⟨rfl, hreal, heq.symm⟩
  | capture task self =>
      exact hkept (.of_eq (by simp only [ApiAction.run, World.context, capture_contexts]))
  | spawn creator child => exact hkept (.refl c w)
  | thread child => exact hkept (.refl c w)
  | raised span traceback => exact hkept (.refl c w)
  | receive sw8 correlation => exact hkept (.refl c w)
  | putCorrelation self key value => exact hkept (.refl c w)
  | wait seconds => exact hkept (.refl c w)

/-- A call brings a trace into one context at most. -/
theorem ApiAction.Extracts.context_eq {action : ApiAction} {c c' a a' : Nat}
    (h : action.Extracts w c a) (h' : action.Extracts w c' a') : c = c' := by
  cases action with
  | newSpan task self answers call => exact h.2.trans h'.2.symm
  | extract span carrier => exact h.2.2.symm.trans h'.2.2
  | spawn creator child => cases h
  | thread child => cases h
  | getContext task sampled => cases h
  | start task span => cases h
  | stop task span queueFull => cases h
  | raised span traceback => cases h
  | edit span change => cases h
  | inject span => cases h
  | receive sw8 correlation => cases h
  | putCorrelation self key value => cases h
  | capture task self => cases h
  | continued task self snapshot => cases h
  | wait seconds => cases h

theorem extractReal_correlation (env : Env) (span : Nat) (carrier : Carrier) (w : World) :
    ((Span.extractReal env span carrier w).1.context (w.span span).context).correlation =
      carrier.correlation := by
  have hspan : ((Span.idOf env carrier.traceId w).1.span span).context = (w.span span).context := by
    unfold Span.idOf
    split <;> rfl
  have hbase : ((((Span.idOf env carrier.traceId w).1.modifyContext
      ((Span.idOf env carrier.traceId w).1.span span).context
      (SpanContext.relate (Span.idOf env carrier.traceId w).2)).modifyContext
      ((Span.idOf env carrier.traceId w).1.span span).context
      (SpanContext.withCorrelation carrier.correlation)).context (w.span span).context).correlation =
        carrier.correlation := by
    rw [hspan]
    exact congrArg SpanContext.correlation (Store.get_modify_self _ _ _)
  unfold Span.extractReal
  dsimp only
  split
  · exact hbase
  · exact hbase
  · split
    · exact hbase
    · split <;> exact hbase

/-- A context that a carrier is extracted into has the map of the carrier afterwards, or still its own. -/
theorem ApiAction.Extracts.correlation_eq (env : Env) {action : ApiAction} {c a : Nat}
    (h : action.Extracts w c a) (hc : c < w.contexts.size) :
    ((action.run env w).context c).correlation = (w.context c).correlation ∨
      ((action.run env w).context c).correlation = (w.carriers.get a).correlation := by
  cases action with
  | newSpan task self answers call =>
      cases call with
      | newEntrySpan op given inherit =>
          obtain ⟨⟨rfl, -, -⟩, rfl⟩ := h
          have hnew := KeptAt.newSpan_top env task self .EntrySpan op none none hc
          refine newEntrySpan_rule (P := fun w' => (w'.context _).correlation = _ ∨
              (w'.context _).correlation = _) env task self answers op (some a) inherit
            (.inl rfl) (.inl rfl) (.inl (KeptAt.ignored hc).2)
            (fun _ => .inl (KeptAt.spansGet _ task w).2) (.inl hnew.2) ?_
          rintro - span w' ⟨rfl⟩ heq -
          obtain ⟨hcontext, hcarriers⟩ := newEntrySpan_target env heq
          right
          rw [← hcontext, extractReal_correlation, hcarriers]
      | newLocalSpan op => cases h.1
      | newExitSpan op peer component inherit => cases h.1
  | extract span carrier =>
      obtain ⟨rfl, hreal, rfl⟩ := h
      right
      simp only [ApiAction.run, Span.extract, if_neg hreal]
      exact extractReal_correlation env span _ w
  | spawn creator child => cases h
  | thread child => cases h
  | getContext task sampled => cases h
  | start task span => cases h
  | stop task span queueFull => cases h
  | raised span traceback => cases h
  | edit span change => cases h
  | inject span => cases h
  | receive sw8 correlation => cases h
  | putCorrelation self key value => cases h
  | capture task self => cases h
  | continued task self snapshot => cases h
  | wait seconds => cases h

end SkyWalking
