import SkyWalking.Log.Endpoint
import SkyWalking.Proof.LogReporterLemmas

/-!
# Which span names the endpoint

Only a span that is put on a stack can become the primary endpoint of its context. All other calls are made of
updates that leave the primary endpoint, the kind and the context of a span alone.
-/

namespace SkyWalking

open World

variable {env : Env} {w w' w'' : World}

/-- Spans stay what they are, contexts keep their primary endpoint, and new ones have none. -/
structure Settled (w w' : World) : Prop where
  spans_le : w.spans.size ≤ w'.spans.size
  contexts_le : w.contexts.size ≤ w'.contexts.size
  span : ∀ s < w.spans.size, (w'.span s).context = (w.span s).context ∧ (w'.span s).kind = (w.span s).kind
  primary : ∀ c, (w'.context c).primaryEndpoint = (w.context c).primaryEndpoint ∨
    w.contexts.size ≤ c ∧ (w'.context c).primaryEndpoint = none

namespace Settled

theorem of_stores (hspans : w'.spans = w.spans) (hcontexts : w'.contexts = w.contexts) : Settled w w' where
  spans_le := by rw [hspans]
  contexts_le := by rw [hcontexts]
  span s _ := by simp only [World.span, hspans, and_self]
  primary c := .inl (by simp only [World.context, hcontexts])

theorem refl (w : World) : Settled w w := of_stores rfl rfl

theorem trans (h : Settled w w') (h' : Settled w' w'') : Settled w w'' where
  spans_le := h.spans_le.trans h'.spans_le
  contexts_le := h.contexts_le.trans h'.contexts_le
  span s hs := by
    obtain ⟨hcontext, hkind⟩ := h.span s hs
    obtain ⟨hcontext', hkind'⟩ := h'.span s (hs.trans_le h.spans_le)
    exact ⟨hcontext'.trans hcontext, hkind'.trans hkind⟩
  primary c := by
    obtain heq' | ⟨hc', hnone'⟩ := h'.primary c
    · rw [heq']
      exact h.primary c
    · exact .inr ⟨h.contexts_le.trans hc', hnone'⟩

theorem modifySpan (s : Nat) {f : Span → Span}
    (hf : ∀ span, (f span).context = span.context ∧ (f span).kind = span.kind) :
    Settled w (w.modifySpan s f) where
  spans_le := le_refl _
  contexts_le := le_refl _
  span x _ := by
    simp only [World.span, World.modifySpan, Store.get_modify]
    split
    · exact hf _
    · exact ⟨rfl, rfl⟩
  primary _ := .inl rfl

theorem modifyContext (c : Nat) {f : SpanContext → SpanContext}
    (hf : ∀ context, (f context).primaryEndpoint = context.primaryEndpoint) :
    Settled w (w.modifyContext c f) where
  spans_le := le_refl _
  contexts_le := le_refl _
  span _ _ := ⟨rfl, rfl⟩
  primary x := by
    left
    simp only [World.context, World.modifyContext, Store.get_modify]
    split
    · exact hf _
    · rfl

theorem allocSpan (span : Span) : Settled w { w with spans := w.spans.alloc span } where
  spans_le := Nat.le_succ _
  contexts_le := le_refl _
  span s hs := by simp only [World.span, Store.get_alloc_of_lt _ _ hs, and_self]
  primary _ := .inl rfl

theorem allocContext {context : SpanContext} (hnone : context.primaryEndpoint = none) (dicts : Store Correlation)
    (uuids : Nat) :
    Settled w { w with dicts := dicts, contexts := w.contexts.alloc context, uuids := uuids } where
  spans_le := le_refl _
  contexts_le := Nat.le_succ _
  span _ _ := ⟨rfl, rfl⟩
  primary c := by
    simp only [World.context, Store.get_alloc]
    split
    · next heq => exact .inr ⟨heq.ge, hnone⟩
    · exact .inl rfl

theorem spansGet (task : Nat) (w : World) : Settled w (w.spansGet task) :=
  of_stores (spansGet_spans w task) (spansGet_contexts w task)

theorem new (env : Env) (w : World) : Settled w (SpanContext.new env w).1 := allocContext rfl _ _

theorem newNoop (w : World) : Settled w (SpanContext.newNoop w).1 := allocContext rfl _ _

theorem getContext (env : Env) (task : Nat) (sampled : Bool) (w : World) :
    Settled w (SkyWalking.getContext env task sampled w).1 := by
  have hget := spansGet task w
  unfold SkyWalking.getContext
  dsimp only
  split
  · exact hget
  · split
    · exact hget.trans (new env _)
    · exact hget.trans (newNoop _)

theorem idOf (env : Env) (rawId : String) (w : World) : Settled w (Span.idOf env rawId w).1 := by
  unfold Span.idOf
  split
  · exact of_stores rfl rfl
  · exact refl w

theorem addRef (s : Nat) (ref : SegmentRef) (w : World) : Settled w (w.modifySpan s (Span.addRef ref)) :=
  modifySpan s fun _ => ⟨rfl, rfl⟩

theorem extractReal (env : Env) (span : Nat) (carrier : Carrier) (w : World) :
    Settled w (Span.extractReal env span carrier w).1 := by
  have htaken : ∀ (w' : World) (c : Nat) (id : ID) (d : Nat),
      Settled w' ((w'.modifyContext c (SpanContext.relate id)).modifyContext c (SpanContext.withCorrelation d)) := by
    intro w' c id d
    have hrelated : Settled w' (w'.modifyContext c (SpanContext.relate id)) := modifyContext c fun _ => rfl
    exact hrelated.trans (modifyContext c fun _ => rfl)
  have hid := idOf env carrier.traceId w
  unfold Span.extractReal
  dsimp only
  split
  · exact hid.trans (htaken _ _ _ _)
  · exact hid.trans (htaken _ _ _ _)
  · split
    · exact hid.trans (htaken _ _ _ _)
    · split
      · exact hid.trans (htaken _ _ _ _)
      · exact (hid.trans (htaken _ _ _ _)).trans (addRef _ _ _)

theorem newSpan (env : Env) (self : Nat) (parent : Option Nat) (cls : SpanClass) (op : String)
    (peer : Option String) (component : Option Component) (w : World) :
    Settled w (SpanContext.newSpan env self parent cls op peer component w).1 := by
  have hcreated : ∀ (w' : World) (c : Nat) (span : Span),
      Settled w' (Span.alloc span (w'.modifyContext c SpanContext.nextSid)).1 := by
    intro w' c span
    have hnumbered : Settled w' (w'.modifyContext c SpanContext.nextSid) := modifyContext c fun _ => rfl
    exact hnumbered.trans (allocSpan span)
  unfold SpanContext.newSpan
  dsimp only
  cases hfinished : SpanContext.isFinished parent w with
  | false =>
      cases parent with
      | none => exact hcreated _ _ _
      | some parent => exact hcreated _ _ _
  | true =>
      cases parent with
      | none => cases hfinished
      | some parent => exact ((new env w).trans (hcreated _ _ _)).trans (extractReal env _ _ _)

theorem ignored (w : World) : Settled w (Span.newNoop (SpanContext.newNoop w).2 (SpanContext.newNoop w).1).1 :=
  (newNoop w).trans (allocSpan _)

theorem newSpan_top (env : Env) (task self : Nat) (cls : SpanClass) (op : String) (peer : Option String)
    (component : Option Component) (w : World) :
    Settled w (SpanContext.newSpan env self (w.view task).getLast? cls op peer component (w.spansGet task)).1 :=
  (spansGet task w).trans (newSpan env self _ cls op peer component _)

theorem call (env : Env) (task self : Nat) (answers : Answers) (call : Call) (w : World) :
    Settled w (call.run env task self answers w).1 := by
  have hnoop : Settled w (Span.newNoop self w).1 := allocSpan _
  have hreused : ∀ s (f : Span → Span), (∀ span, (f span).context = span.context ∧ (f span).kind = span.kind) →
      Settled w ((w.spansGet task).modifySpan s f) :=
    fun s f hf => (spansGet task w).trans (modifySpan s hf)
  cases call with
  | newLocalSpan op =>
      exact newLocalSpan_rule env task self answers op hnoop (refl w) (ignored w)
        (newSpan_top env task self .Span op none none w)
  | newEntrySpan op carrier inherit =>
      have hnew := newSpan_top env task self .EntrySpan op none none w
      refine newEntrySpan_rule env task self answers op carrier inherit hnoop (refl w) (ignored w)
        (fun _ => hreused _ _ fun _ => ⟨rfl, rfl⟩) hnew ?_
      intro a span w' _ heq _
      rw [heq] at hnew
      exact hnew.trans (extractReal env _ _ _)
  | newExitSpan op peer component inherit =>
      exact newExitSpan_rule env task self answers op peer component inherit hnoop (refl w) (ignored w)
        (fun _ => hreused _ _ fun _ => ⟨rfl, rfl⟩) (newSpan_top env task self .ExitSpan op peer component w)
        fun _ _ _ hsettled => hsettled.trans (modifySpan _ fun _ => ⟨rfl, rfl⟩)

theorem spanStop (task s : Nat) (queueFull : Bool) (w : World) :
    Settled w (Span.stop task s queueFull w).1 := by
  have hleft : Settled w (w.modifySpan s Span.left) := modifySpan s fun _ => ⟨rfl, rfl⟩
  have hcontext : ∀ (w' : World) (c : Nat), Settled w' (SpanContext.stop task c s queueFull w').1 := by
    intro w' c
    cases hnoop : (w'.context c).noop with
    | true =>
        have hdown : Settled w' (w'.modifyContext c SpanContext.countDown) := modifyContext c fun _ => rfl
        rw [SpanContext.stop_of_noop task c s queueFull w' hnoop]
        exact hdown.trans (of_stores rfl rfl)
    | false =>
        have hended : Settled w' (w'.modifySpan s (Span.endedAt w'.now)) := modifySpan s fun _ => ⟨rfl, rfl⟩
        have hclosed : Settled w' ((w'.modifySpan s (Span.endedAt w'.now)).modifyContext c
            fun context => (context.archiveSpan s).countDown) := hended.trans (modifyContext c fun _ => rfl)
        have hleft' : Settled w' (SpanContext.left task c s w') := by
          rw [SpanContext.left_eq]
          exact hclosed.trans (of_stores rfl rfl)
        rw [SpanContext.stop_of_real task c s queueFull w' hnoop]
        dsimp only
        split
        · have hlimited : Settled w' ((SpanContext.left task c s w').modifyContext c
              (SpanContext.sizeLimited queueFull)) := hleft'.trans (modifyContext c fun _ => rfl)
          exact hlimited.trans (of_stores rfl rfl)
        · exact hleft'
  unfold Span.stop
  dsimp only
  split
  · exact hleft.trans (hcontext _ _)
  · exact hleft

theorem edit (env : Env) (s : Nat) (change : Edit) (w : World) : Settled w (change.run env s w).1 := by
  cases change with
  | tag value =>
      simp only [Edit.run, Span.tag]
      split
      · exact refl w
      · exact modifySpan s fun _ => ⟨rfl, rfl⟩
  | op _ | peer _ | component _ | layer _ | log _ => exact modifySpan s fun _ => ⟨rfl, rfl⟩

theorem inject (env : Env) (s : Nat) (w : World) : Settled w (Span.inject env s w).1 := by
  unfold Span.inject
  split <;> exact of_stores rfl rfl

theorem capture (task self : Nat) (w : World) : Settled w (SpanContext.capture task self w).1 := by
  have hget := spansGet task w
  unfold SpanContext.capture
  dsimp only
  split
  · exact of_stores rfl rfl
  · split
    · exact hget
    · exact hget.trans (of_stores rfl rfl)

theorem isFromCurrent (task self : Nat) (snapshot : Snapshot) (w : World) :
    Settled w (SpanContext.isFromCurrent task self snapshot w).1 := by
  have hcapture := capture task self w
  unfold SpanContext.isFromCurrent
  split
  · exact refl w
  · split <;> next heq =>
      rw [heq] at hcapture
      exact hcapture

theorem continued (env : Env) (task self snapshot : Nat) (w : World) :
    Settled w (SpanContext.continued env task self snapshot w).1 := by
  have hcurrent := isFromCurrent task self (w.snapshots.get snapshot) w
  unfold SpanContext.continued
  dsimp only
  split
  · exact of_stores rfl rfl
  split
  · next heq =>
    rw [heq] at hcurrent
    exact hcurrent
  · next heq =>
    rw [heq] at hcurrent
    exact hcurrent
  · next w' heq =>
    rw [heq] at hcurrent
    dsimp only at hcurrent
    split
    · split
      · exact hcurrent
      · next ref _ =>
        split
        · exact hcurrent
        · next span _ =>
          have hreferred := (hcurrent.trans (addRef span ref w')).trans (idOf env ref.traceId _)
          have hrelated : ∀ (w'' : World) (id : ID),
              Settled w'' (w''.modifyContext self (SpanContext.relate id)) :=
            fun w'' id => modifyContext self fun _ => rfl
          exact (hreferred.trans (hrelated _ _)).trans (of_stores rfl rfl)
    · exact hcurrent

end Settled

/-- Everything but entering a span. -/
theorem ApiAction.settled (env : Env) {action : ApiAction} (hnot : ∀ task span, action ≠ .start task span)
    (w : World) : Settled w (action.run env w) := by
  cases action with
  | start task span => exact absurd rfl (hnot task span)
  | getContext task sampled => exact .getContext env task sampled w
  | newSpan task self answers call => exact .call env task self answers call w
  | stop task span queueFull => exact .spanStop task span queueFull w
  | raised span traceback => exact .modifySpan span fun _ => ⟨rfl, rfl⟩
  | edit span change => exact .edit env span change w
  | inject span => exact .inject env span w
  | extract span carrier =>
      simp only [ApiAction.run, Span.extract]
      split
      · exact .refl w
      · exact .extractReal env span _ w
  | capture task self => exact .capture task self w
  | continued task self snapshot => exact .continued env task self snapshot w
  | spawn _ _ | thread _ | receive _ _ | putCorrelation _ _ _ | wait _ => exact .of_stores rfl rfl

theorem SpanContext.primaryEndpointAfter_congr {s : Nat} (hkind : ∀ x, (w'.span x).kind = (w.span x).kind)
    (primary : Option Nat) :
    SpanContext.primaryEndpointAfter s w' primary = SpanContext.primaryEndpointAfter s w primary := by
  cases primary with
  | none => rfl
  | some first => simp only [SpanContext.primaryEndpointAfter, hkind]

theorem SpanContext.primary_withPrimary (c : Nat) (primary : Option Nat) (w : World) (x : Nat) :
    ((w.modifyContext c (SpanContext.withPrimary primary)).context x).primaryEndpoint =
      if x = c then primary else (w.context x).primaryEndpoint := by
  simp only [World.context, World.modifyContext, Store.get_modify]
  split <;> rfl

theorem SpanContext.start_primary (task c s : Nat) (w : World) (x : Nat) :
    ((SpanContext.start task c s w).context x).primaryEndpoint =
      if x = c ∧ s ∉ w.view task then
        SpanContext.primaryEndpointAfter s w (w.context x).primaryEndpoint
      else (w.context x).primaryEndpoint := by
  have hview : ((w.modifyContext c SpanContext.countUp).spansDup task).view task = w.view task := by
    simp only [World.spansDup, World.view, World.bindList, World.modifyContext, Function.update_self,
      Store.get_alloc_size]
  have hcounted : ∀ y, ((w.modifyContext c SpanContext.countUp).context y).primaryEndpoint =
      (w.context y).primaryEndpoint := by
    intro y
    simp only [World.context, World.modifyContext, Store.get_modify]
    split <;> rfl
  unfold SpanContext.start
  dsimp only
  rw [hview]
  by_cases hmem : s ∈ w.view task
  · rw [if_pos hmem, if_neg fun hboth => hboth.2 hmem]
    exact hcounted x
  · rw [if_neg hmem]
    -- the list is changed in place, which no context and no span notices
    obtain ⟨lists, hpushed⟩ : ∃ lists, ((w.modifyContext c SpanContext.countUp).spansDup task).modifyList task
        (· ++ [s]) = { (w.modifyContext c SpanContext.countUp).spansDup task with lists := lists } := by
      simp only [World.modifyList, World.spansDup, World.bindList, Function.update_self]
      exact ⟨_, rfl⟩
    rw [hpushed, SpanContext.primary_withPrimary]
    by_cases hx : x = c
    · subst hx
      rw [if_pos rfl, if_pos ⟨rfl, hmem⟩, ← hcounted x]
      exact SpanContext.primaryEndpointAfter_congr (fun _ => rfl) _
    · rw [if_neg hx, if_neg fun hboth => hx hboth.1]
      exact hcounted x

theorem Span.start_primary (task s : Nat) (w : World) (x : Nat) :
    ((Span.start task s w).context x).primaryEndpoint =
      if x = (w.span s).context ∧ (w.span s).depth = 0 ∧ s ∉ w.view task then
        SpanContext.primaryEndpointAfter s w (w.context x).primaryEndpoint
      else (w.context x).primaryEndpoint := by
  have hentry : ∀ w' : World, (if (w'.span s).cls = .EntrySpan then w'.modifySpan s Span.restarted else w').context x =
      w'.context x := by
    intro w'
    split <;> rfl
  have hdepth : ((w.modifySpan s Span.entered).span s).depth = (w.span s).depth + 1 := by
    simp [World.span, World.modifySpan, Span.entered]
  unfold Span.start
  dsimp only
  rw [hentry, hdepth]
  by_cases hzero : (w.span s).depth = 0
  · rw [if_pos (by omega), SpanContext.start_primary]
    have hkind : ∀ y, (((w.modifySpan s Span.entered).modifySpan s
        (Span.startedAt (w.modifySpan s Span.entered).now)).span y).kind = (w.span y).kind := by
      intro y
      simp only [World.span, World.modifySpan, Store.get_modify]
      split <;> rfl
    have hcontext : (((w.modifySpan s Span.entered).modifySpan s
        (Span.startedAt (w.modifySpan s Span.entered).now)).span s).context = (w.span s).context := by
      simp [World.span, World.modifySpan, Span.entered, Span.startedAt]
    rw [hcontext, SpanContext.primaryEndpointAfter_congr hkind]
    simp only [hzero, true_and]
    rfl
  · rw [if_neg (by omega), if_neg fun hboth => hzero hboth.2.1]
    rfl

theorem Span.start_span (task s : Nat) (w : World) (x : Nat) :
    ((Span.start task s w).span x).context = (w.span x).context ∧
      ((Span.start task s w).span x).kind = (w.span x).kind := by
  have hmodified : ∀ (w' : World) (f : Span → Span),
      (∀ span, (f span).context = span.context ∧ (f span).kind = span.kind) →
        ((w'.modifySpan s f).span x).context = (w'.span x).context ∧
          ((w'.modifySpan s f).span x).kind = (w'.span x).kind := by
    intro w' f hf
    simp only [World.span, World.modifySpan, Store.get_modify]
    split
    · exact hf _
    · exact ⟨rfl, rfl⟩
  have hentry : ∀ w' : World,
      ((if (w'.span s).cls = .EntrySpan then w'.modifySpan s Span.restarted else w').span x).context =
          (w'.span x).context ∧
        ((if (w'.span s).cls = .EntrySpan then w'.modifySpan s Span.restarted else w').span x).kind =
          (w'.span x).kind := by
    intro w'
    split
    · exact hmodified w' _ fun _ => ⟨rfl, rfl⟩
    · exact ⟨rfl, rfl⟩
  have hentered := hmodified w Span.entered fun _ => ⟨rfl, rfl⟩
  unfold Span.start
  dsimp only
  rw [(hentry _).1, (hentry _).2]
  split
  · obtain ⟨primary, heq⟩ := SpanContext.start_eq task
      (((w.modifySpan s Span.entered).modifySpan s (Span.startedAt (w.modifySpan s Span.entered).now)).span
        s).context s
      ((w.modifySpan s Span.entered).modifySpan s (Span.startedAt (w.modifySpan s Span.entered).now))
    have hstarted := hmodified (w.modifySpan s Span.entered)
      (Span.startedAt (w.modifySpan s Span.entered).now) fun _ => ⟨rfl, rfl⟩
    rw [heq]
    exact ⟨hstarted.1.trans hentered.1, hstarted.2.trans hentered.2⟩
  · exact hentered

/-- What both handlers put into the log. -/
theorem logOrigin_endpoint (hok : w.VarsOk) (task : Nat) (sampled : Bool) :
    (logOrigin env task sampled w).2.endpoint = (((w.view task).getLast?).map fun top =>
      ((w.context (w.span top).context).primaryEndpoint.map fun s => (w.span s).op).getD "").getD "" := by
  have hview := (quiet_getContext env hok task sampled).view_eq task
  cases htop : (w.view task).getLast? with
  | none =>
      unfold logOrigin
      simp only [SpanContext.peek, hview, htop]
      rfl
  | some top =>
      have hget := getContext_of_top env sampled htop
      rw [hget] at hview
      dsimp only at hview
      unfold logOrigin
      simp only [hget, SpanContext.peek, hview, htop, spansGet_span, World.context, spansGet_contexts]
      split <;> next heq => simp [heq]

theorem LogCall.endpoint_eq {reporter : LogReporter} {task : Nat} {sampled : Bool} {call : LogCall}
    {data : LogData} (h : (call.run env reporter task sampled w).2 = some data) :
    data.endpoint = (logOrigin env task sampled w).2.endpoint := by
  cases call with
  | logging disabled passes record =>
      unfold LogCall.run swHandle at h
      dsimp only at h
      split at h
      · cases h
      split at h
      · cases h
      split at h
      · cases h
      split at h
      · cases h
      · obtain rfl := Option.some.inj h
        rfl
  | loguru record =>
      unfold LogCall.run swSink at h
      dsimp only at h
      split at h
      · cases h
      · split at h
        · cases h
        · obtain rfl := Option.some.inj h
          rfl

namespace Observed

variable {o o' : Observed} {action : ApiAction}

structure Sound (env : Env) (o : Observed) : Prop where
  ok : WorldOk env o.world
  pushed_lt : ∀ s ∈ o.pushed, s < o.world.spans.size
  primary : ∀ c, (o.world.context c).primaryEndpoint = o.first c

theorem sound_init (env : Env) : Observed.init.Sound env where
  ok := worldOk_init env
  pushed_lt _ h := by cases h
  primary _ := rfl

theorem pushedIn_congr (hcontext : ∀ s ∈ o.pushed, (w.span s).context = (o.world.span s).context) (c : Nat) :
    Observed.pushedIn ⟨w, o.pushed⟩ c = o.pushedIn c := by
  refine List.filter_congr fun s hs => ?_
  rw [hcontext s hs]

theorem first_congr (hspan : ∀ s ∈ o.pushed, (w.span s).context = (o.world.span s).context ∧
    (w.span s).kind = (o.world.span s).kind) (c : Nat) : Observed.first ⟨w, o.pushed⟩ c = o.first c := by
  have hin := pushedIn_congr (fun s hs => (hspan s hs).1) c
  have hfind : ((o.pushedIn c).find? fun s => (w.span s).kind = .Entry) =
      (o.pushedIn c).find? fun s => (o.world.span s).kind = .Entry := by
    refine List.find?_congr fun s hs => ?_
    rw [(hspan s (List.mem_filter.mp hs).1).2]
  simp only [first, hin, hfind]

/-- The policy looks at one more span. -/
theorem first_snoc (s c : Nat) :
    Observed.first ⟨o.world, o.pushed ++ [s]⟩ c =
      if (o.world.span s).context = c then SpanContext.primaryEndpointAfter s o.world (o.first c)
      else o.first c := by
  have hin : Observed.pushedIn ⟨o.world, o.pushed ++ [s]⟩ c =
      o.pushedIn c ++ if (o.world.span s).context = c then [s] else [] := by
    by_cases hcontext : (o.world.span s).context = c <;> simp [pushedIn, hcontext]
  unfold first
  rw [hin]
  by_cases hcontext : (o.world.span s).context = c
  · rw [if_pos hcontext, if_pos hcontext, List.find?_append]
    cases hentry : (o.pushedIn c).find? fun s => (o.world.span s).kind = .Entry with
    | some entry =>
        have hkind := List.find?_some hentry
        simp only [decide_eq_true_eq] at hkind
        simp [SpanContext.primaryEndpointAfter, hkind]
    | none =>
        have hnone := List.find?_eq_none.mp hentry
        cases hhead : o.pushedIn c with
        | nil => by_cases hkind : (o.world.span s).kind = .Entry <;> simp [SpanContext.primaryEndpointAfter, hkind]
        | cons first rest =>
            have hfirst := hnone first (by simp [hhead])
            simp only [decide_eq_true_eq] at hfirst
            by_cases hkind : (o.world.span s).kind = .Entry <;>
              simp [SpanContext.primaryEndpointAfter, hkind, hfirst]
  · rw [if_neg hcontext, if_neg hcontext, List.append_nil]

namespace Sound

variable (h : o.Sound env)

include h

theorem first_of_ge {c : Nat} (hc : o.world.contexts.size ≤ c) : o.first c = none := by
  have hempty : o.pushedIn c = [] := by
    refine List.filter_eq_nil_iff.mpr fun s hs => ?_
    have hlt := h.ok.span_context s (h.pushed_lt s hs)
    simpa using (hlt.trans_le hc).ne
  rw [first, hempty]
  rfl

theorem step (hstep : Step env o action o') : o'.Sound env := by
  obtain ⟨⟨henabled, hworld⟩, hpushed⟩ := hstep
  obtain ⟨world, pushed⟩ := o'
  dsimp only at hworld hpushed
  subst hworld hpushed
  obtain ⟨hok, hevolves⟩ := keeps_action henabled h.ok
  have hlt : ∀ s ∈ o.pushed, s < (action.run env o.world).spans.size :=
    fun s hs => (h.pushed_lt s hs).trans_le hevolves.spans_le
  by_cases hstart : ∃ task span, action = .start task span
  · obtain ⟨task, s, rfl⟩ := hstart
    have hspan := Span.start_span task s o.world
    have hfirst : ∀ (pushed : List Nat) (c : Nat),
        Observed.first ⟨Span.start task s o.world, pushed⟩ c = Observed.first ⟨o.world, pushed⟩ c :=
      fun pushed => first_congr (o := ⟨o.world, pushed⟩) fun x _ => hspan x
    refine ⟨hok, fun x hx => ?_, fun c => ?_⟩
    · obtain hold | hnew := List.mem_append.mp hx
      · exact hlt x hold
      · simp only [ApiAction.pushes] at hnew
        split at hnew
        · obtain rfl := List.mem_singleton.mp hnew
          exact henabled.trans_le hevolves.spans_le
        · cases hnew
    · simp only [ApiAction.run, Span.start_primary, hfirst, ApiAction.pushes, h.primary]
      by_cases hpushes : (o.world.span s).depth = 0 ∧ s ∉ o.world.view task
      · rw [if_pos hpushes, Option.toList_some, first_snoc]
        simp only [hpushes, not_false_eq_true, and_true, eq_comm]
      · rw [if_neg hpushes, if_neg fun hboth => hpushes hboth.2, Option.toList_none, List.append_nil]
  · have hsettled := ApiAction.settled env (fun task span heq => hstart ⟨task, span, heq⟩) o.world
    have hnone : (action.pushes o.world).toList = [] := by
      cases action with
      | start task span => exact absurd ⟨task, span, rfl⟩ hstart
      | _ => rfl
    rw [hnone, List.append_nil]
    refine ⟨hok, hlt, fun c => ?_⟩
    have hsame := first_congr (fun s hs => hsettled.span s (h.pushed_lt s hs)) c
    obtain hkept | ⟨hc, hfresh⟩ := hsettled.primary c
    · rw [hkept, h.primary, hsame]
    · rw [hfresh, hsame, h.first_of_ge hc]

theorem picks (hvars : o.world.VarsOk) : o.Picks env where
  primary := h.primary
  logs reporter task sampled call data hdata := by
    rw [LogCall.endpoint_eq hdata, logOrigin_endpoint hvars]
    simp only [h.primary]
    rfl

end Sound

/-- **The endpoint policy.** Whatever the tasks of a process call, the primary endpoint of each context is the
first entry span of it that was put on a stack, or else the first span, and each log that is written is named
after that of the context it is written in. -/
theorem endpoints_follow_policy (env : Env) {actions : List ApiAction} {o : Observed}
    (hrun : Run (Step env) .init actions o) : o.Picks env := by
  have hsound := hrun.invariant (I := fun o : Observed => o.Sound env) (fun _ _ _ h hstep => h.step hstep)
    (sound_init env)
  exact hsound.picks hsound.ok.vars_lt

/-- A local span, an entry span inside it, which renames the endpoint, and one more span. -/
def pageEndpointActions : List ApiAction :=
  [.getContext 0 true,
    .newSpan 0 0 ⟨false, false⟩ (.newLocalSpan "boot"),
    .start 0 0,
    .newSpan 0 0 ⟨false, false⟩ (.newEntrySpan "/page" none none),
    .start 0 1,
    .newSpan 0 0 ⟨false, false⟩ (.newLocalSpan "render"),
    .start 0 2,
    .edit 1 (.op "/page/{id}")]

theorem page_endpoint_picked : ∃ o, Run (Step .sample) .init pageEndpointActions o ∧
    o.pushed = [0, 1, 2] ∧ o.endpointName 0 = "/page/{id}" ∧ o.Picks .sample := by
  have htest : (pageEndpointActions.foldlM (next .sample) Observed.init).any (fun o =>
      decide (o.pushed = [0, 1, 2] ∧ o.endpointName 0 = "/page/{id}")) = true := by
    decide +kernel
  obtain ⟨o, hreached, hpushed, hname⟩ := Run.exists_of_foldlM htest
  have hrun : Run (Step .sample) .init pageEndpointActions o := by
    refine hreached.mono fun o action o' hstep => ?_
    simp only [next, Option.ite_none_right_eq_some] at hstep
    obtain ⟨henabled, heq⟩ := hstep
    obtain rfl := Option.some.inj heq
    exact ⟨⟨henabled, rfl⟩, rfl⟩
  exact ⟨o, hrun, hpushed, hname, endpoints_follow_policy .sample hrun⟩

end Observed

end SkyWalking
