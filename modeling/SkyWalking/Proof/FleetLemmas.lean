import SkyWalking.Proof.Chain
import SkyWalking.Proof.TreeLemmas
import SkyWalking.Proof.WrittenLemmas

/-!
# References across processes

A name is handed out by the process that its span is in, and whoever writes it down has got it from there. No
two spans bear the same segment id and the same number.
-/

namespace SkyWalking

open World

/-- A noop span has no number of its own. -/
def Ledger.Unnumbered (l : Ledger) : Prop :=
  ∀ s < l.spans.size, (l.span s).noop = true → (l.span s).sid = -1

theorem Ledger.Unnumbered.apply {l : Ledger} (h : l.Unnumbered) (hinv : l.Inv) (action : Ledger.Action) :
    (l.apply action).Unnumbered := by
  intro s hs hnoop
  by_cases hold : s < l.spans.size
  · obtain ⟨hnoop', -, hsid, -⟩ := (extends_apply hinv action).same s hold
    exact hsid.trans (h s hold (hnoop'.symm.trans hnoop))
  · cases action with
    | newContext noop => exact absurd hs hold
    | create context pid =>
        obtain rfl : s = l.spans.size := Nat.le_antisymm (Nat.lt_succ_iff.mp hs) (not_lt.mp hold)
        rw [Ledger.apply, span_create_size] at hnoop
        cases hnoop
    | createNoop context =>
        obtain rfl : s = l.spans.size := Nat.le_antisymm (Nat.lt_succ_iff.mp hs) (not_lt.mp hold)
        rw [Ledger.apply, span_createNoop_size]
    | start span => exact absurd (l.spans_size_start span ▸ hs) hold
    | stop span => exact absurd (l.spans_size_stop span ▸ hs) hold

/-- What the spans of a process need to be told apart by their names. -/
structure World.Nameable (env : Env) (w : World) : Prop where
  worldOk : WorldOk env w
  alone : w.Alone
  inv : w.ledger.Inv
  unnumbered : w.ledger.Unnumbered
  generated : ∀ c < w.contexts.size, ∀ id ∈ (w.context c).segment.relatedTraces, id.cls = .NewID →
    ∃ k < w.uuids, id.value = env.uuid1 k
  distinct : ∀ c' < w.contexts.size, (w.context c').noop = false → ∀ c < c',
    (w.context c).noop = false →
      (w.context c).segment.segmentId.value ≠ (w.context c').segment.segmentId.value

section Names

variable {env : Env} {w w' : World} {s : Nat} {name : SpanName}

theorem nameable_init (env : Env) : World.init.Nameable env where
  worldOk := worldOk_init env
  alone _ hc := by cases hc
  inv := sound_init.inv
  unnumbered _ hs := by cases hs
  generated _ hc := by cases hc
  distinct _ hc := by cases hc

theorem World.Nameable.step {T : Nat → Prop} {Q P : SpanName → Prop} (h : w.Nameable env)
    {action : ApiAction} (hstep : ApiStep env w action w') (hwritten : Written env T Q P w w')
    (hok : WorldOk env w') (halone : w'.Alone) (hevolves : Evolves w w') : w'.Nameable env where
  worldOk := hok
  alone := halone
  inv := hstep.inv h.inv
  unnumbered :=
    hstep.keepsLedger (fun _ label hinv hnumbered _ => hnumbered.apply hinv label) h.inv h.unnumbered
  generated c hc id hid hcls := by
    obtain ⟨hlt, hold⟩ | hnew := hwritten.generated c hc id hid hcls
    · obtain ⟨k, hk, hvalue⟩ := h.generated c hlt id hold hcls
      exact ⟨k, hk.trans_le hevolves.uuids_le, hvalue⟩
    · exact hnew
  distinct c' hc' hreal' c hc hreal := by
    by_cases hold : c' < w.contexts.size
    · obtain ⟨hnoop', hid'⟩ := hevolves.context_same c' hold
      obtain ⟨hnoop, hid⟩ := hevolves.context_same c (hc.trans hold)
      rw [hid, hid']
      exact h.distinct c' hold (hnoop' ▸ hreal') c hc (hnoop ▸ hreal)
    · exact hwritten.apart c' hc' (not_lt.mp hold) hreal' c hc hreal

namespace World.Nameable

variable (h : w.Nameable env) (hs : s < w.spans.size)

include h hs

theorem context_real (hreal : (w.span s).cls ≠ .NoopSpan) : (w.context (w.span s).context).noop = false :=
  (h.inv.noop_eq s hs).symm.trans (toLedger_real.mpr hreal)

theorem sid_nonneg (hreal : (w.span s).cls ≠ .NoopSpan) : 0 ≤ (w.span s).sid :=
  h.inv.sid_nonneg s hs (toLedger_real.mpr hreal)

theorem real_of_sid (hsid : (w.span s).sid ≠ -1) : (w.span s).cls ≠ .NoopSpan :=
  fun hnoop => hsid (h.unnumbered s hs (toLedger_noop.mpr hnoop))

/-- The trace that a span is in was generated or taken up. -/
theorem traceOf_head {id : ID} (hhead : (w.context (w.span s).context).segment.relatedTraces.head? = some id) :
    w.TraceOf env (w.span s).context id.value := by
  have hmem := List.mem_of_head? hhead
  by_cases hcls : id.cls = .NewID
  · exact .inr (h.generated _ (h.worldOk.span_context s hs) id hmem hcls)
  · exact .inl ⟨id, hmem, hcls, rfl⟩

/-- A carrier that names a span by what it is bears a name of that span. -/
theorem carrierOf_names (hgives : (Span.carrierOf env s w).Gives name) : w.NamedBy env s name := by
  obtain ⟨hvalid, ref, href, rfl⟩ := hgives
  have hnumeric := (Carrier.isValid_eq_ok_true.mp hvalid).2.2.2.2.2.2
  have hreal : (w.span s).cls ≠ .NoopSpan := by
    refine h.real_of_sid hs fun hsid => ?_
    rw [show (Span.carrierOf env s w).spanId = .str (toString (w.span s).sid) from rfl, hsid] at hnumeric
    exact absurd hnumeric (by decide)
  have hnumber := carrierOf_toInt (w := w) env (h.sid_nonneg hs hreal)
  rw [SegmentRef.ofCarrier_eq hnumber, Except.ok.injEq] at href
  subst href
  refine ⟨⟨hs, hreal, rfl, rfl⟩, ?_, rfl, rfl⟩
  obtain ⟨traceId, htrace, hcarrier, -⟩ := h.worldOk.traceId_ne hs (h.context_real hs hreal)
  obtain ⟨id, hhead, rfl⟩ := Option.map_eq_some_iff.mp htrace
  rw [show ((Span.carrierOf env s w).toRef "CrossProcess" (w.span s).sid).name.traceId = id.value from hcarrier]
  exact h.traceOf_head hs hhead

theorem snapshotOf_names {c bottom correlation : Nat} (hown : (w.span s).cls = .NoopSpan ∨ c = (w.span s).context)
    (hgives : (snapshotOf c s bottom correlation w).Gives env name) : w.NamedBy env s name := by
  obtain ⟨hvalid, ref, href, rfl⟩ := hgives
  simp only [SpanContext.isValidSnapshot, snapshotOf, Option.isSome_some, Bool.true_and, Bool.and_eq_true]
    at hvalid
  obtain ⟨hsid, htrace⟩ := hvalid
  have hreal : (w.span s).cls ≠ .NoopSpan := h.real_of_sid hs (of_decide_eq_true hsid).ne'
  obtain hnoop | rfl := hown
  · exact absurd hnoop hreal
  obtain ⟨id, hhead⟩ := Option.isSome_iff_exists.mp htrace
  rw [SpanContext.buildRef, SegmentRef.ofCarrier_eq rfl, Except.ok.injEq] at href
  subst href
  refine ⟨⟨hs, hreal, rfl, rfl⟩, ?_, rfl, rfl⟩
  simp only [SegmentRef.name, Carrier.toRef, snapshotOf, hhead, Option.map_some, Option.getD_some]
  exact h.traceOf_head hs hhead

end World.Nameable

/-- Whoever reads an item takes over the names that its sender wrote. -/
theorem gives_of_headerGives {carrier : Carrier} {spanId sw8 : String} (hspanId : carrier.spanId = .str spanId)
    (hdash : '-' ∉ spanId.toList) (hval : carrier.getVal = .ok sw8) (h : HeaderGives sw8 name) :
    carrier.Gives name := by
  obtain ⟨correlation, hgives⟩ := h
  have hsome : ∃ endpoint clientAddress, carrier.endpoint = some endpoint ∧
      carrier.clientAddress = some clientAddress := by
    cases hendpoint : carrier.endpoint with
    | none =>
        rw [Carrier.getVal, hspanId, hendpoint] at hval
        cases hval
    | some endpoint =>
        cases hclient : carrier.clientAddress with
        | none =>
            rw [Carrier.getVal, hspanId, hendpoint, hclient] at hval
            cases hval
        | some clientAddress => exact ⟨endpoint, clientAddress, rfl, rfl⟩
  obtain ⟨endpoint, clientAddress, hendpoint, hclient⟩ := hsome
  obtain ⟨val, hval', hset⟩ := carrier.setVal_getVal hspanId hdash hendpoint hclient
  obtain rfl : val = sw8 := Except.ok.inj (hval'.symm.trans hval)
  rw [hset correlation] at hgives
  exact hgives

theorem ApiAction.announces_lt (hok : WorldOk env w) {action : ApiAction} (henabled : action.Enabled w)
    (hs : s ∈ action.announces w) : s < w.spans.size := by
  cases action with
  | inject span =>
      obtain rfl := Option.some.inj hs
      exact henabled
  | capture task self => exact hok.top_lt s hs
  | continued task self snapshot => exact hok.top_lt s hs
  | newSpan task self answers call =>
      exact hok.top_lt s (Option.filter_eq_some_iff.mp hs).1
  | _ => cases hs

/-- An item that is handed out bears a name of the span that it was asked for. -/
theorem World.Nameable.sends_names (h : w.Nameable env) {action : ApiAction} (henabled : action.Enabled w)
    {sw8 : String} (hsent : sw8 ∈ action.sends env w) (hgives : HeaderGives sw8 name) :
    ∃ t ∈ action.announces w, t < w.spans.size ∧ w.NamedBy env t name := by
  cases action with
  | inject span =>
      have hspan : span < w.spans.size := henabled
      refine ⟨span, rfl, hspan, ?_⟩
      cases hcls : (w.span span).cls with
      | ExitSpan =>
          have hreal : (w.span span).cls ≠ .NoopSpan := by simp [hcls]
          simp only [ApiAction.sends, Span.headers, Span.inject, hcls, Store.get_alloc_size] at hsent
          cases hval : (Span.carrierOf env span w).getVal with
          | error error => simp [hval, Except.map] at hsent
          | ok val =>
              simp only [hval, Except.map, List.mem_singleton] at hsent
              subst hsent
              exact h.carrierOf_names hspan (gives_of_headerGives rfl
                (not_mem_dash_toString (h.sid_nonneg hspan hreal)) hval hgives)
      | NoopSpan =>
          simp only [ApiAction.sends, Span.headers, Span.inject, hcls, Store.get_alloc_size] at hsent
          cases hval : (Carrier.fresh w.dicts.size).getVal with
          | error error => simp [hval, Except.map] at hsent
          | ok val =>
              simp only [hval, Except.map, List.mem_singleton] at hsent
              subst hsent
              exact absurd (gives_of_headerGives rfl (by decide) hval hgives) (Carrier.not_gives_fresh _ name)
      | Span => simp [ApiAction.sends, Span.headers, Span.inject, hcls] at hsent
      | EntrySpan => simp [ApiAction.sends, Span.headers, Span.inject, hcls] at hsent
  | _ => cases hsent

/-- A span that has a name keeps it. -/
theorem World.NamedBy.step {T : Nat → Prop} {Q P : SpanName → Prop} (h : w.NamedBy env s name)
    (hok : w.Nameable env) {action : ApiAction} (hstep : ApiStep env w action w') (hevolves : Evolves w w')
    (hwritten : Written env T Q P w w') : w'.NamedBy env s name := by
  obtain ⟨⟨hlt, hreal, hsegment, hspanId⟩, htrace, hservice, hinstance⟩ := h
  obtain ⟨hcls, hcontext⟩ := hevolves.span_same s hlt
  have hcontextLt := hok.worldOk.span_context s hlt
  obtain ⟨-, hid⟩ := hevolves.context_same _ hcontextLt
  have hsid : (w'.span s).sid = (w.span s).sid := ((hstep.extends hok.inv).same s hlt).2.2.1
  refine ⟨⟨hlt.trans_le hevolves.spans_le, hcls ▸ hreal, ?_, hsid.trans hspanId⟩, ?_, hservice, hinstance⟩
  · rw [hcontext, hid]
    exact hsegment
  · rw [hcontext]
    obtain ⟨id, hmem, hnew, hvalue⟩ | ⟨k, hk, hvalue⟩ := htrace
    · exact .inl ⟨id, hwritten.kept _ hcontextLt id hmem hnew, hnew, hvalue⟩
    · exact .inr ⟨k, hk.trans_le hevolves.uuids_le, hvalue⟩

end Names

namespace Fleet

variable {envs : Nat → Env} {f f' : Fleet} {action : FleetAction} {nodes nodes' : List Node}
  {name : SpanName}

/-- The name is one of a span in the list. -/
def Known (envs : Nat → Env) (f : Fleet) (nodes : List Node) (name : SpanName) : Prop :=
  ∃ node ∈ nodes, (f.world node.process).NamedBy (envs node.process) node.span name

/-- All names that are written down anywhere are names of announced spans. -/
structure Sound (envs : Nat → Env) (f : Fleet) : Prop where
  nameable : ∀ p, (f.world p).Nameable (envs p)
  carriers : ∀ p, ∀ a < (f.world p).carriers.size, ∀ name, ((f.world p).carriers.get a).Gives name →
    f.Known envs f.announced name
  snapshots : ∀ p, ∀ a < (f.world p).snapshots.size, ∀ name,
    ((f.world p).snapshots.get a).Gives (envs p) name → f.Known envs f.announced name
  refs : ∀ p, ∀ s < (f.world p).spans.size, ∀ ref ∈ ((f.world p).span s).refs,
    f.Known envs f.announced ref.name ∧ (f.world p).Lists s ref.traceId
  flight : ∀ sw8 ∈ f.flight, ∀ name, HeaderGives sw8 name → f.Known envs f.announced name

theorem sound_init (envs : Nat → Env) : Fleet.init.Sound envs where
  nameable p := nameable_init (envs p)
  carriers _ _ ha := by cases ha
  snapshots _ _ ha := by cases ha
  refs _ _ hs := by cases hs
  flight _ h := by cases h

theorem Known.mono (h : f.Known envs nodes name) (hsub : nodes ⊆ nodes') : f.Known envs nodes' name := by
  obtain ⟨node, hmem, hnamed⟩ := h
  exact ⟨node, hsub hmem, hnamed⟩

/-- A name is known to be one of a span, and its trace id is not empty. -/
theorem Sound.traceId_ne (h : f.Sound envs) (hknown : f.Known envs nodes name) : name.traceId ≠ "" := by
  obtain ⟨node, -, hhas, htrace, -⟩ := hknown
  have hname := h.nameable node.process
  obtain ⟨id, hid, -, hvalue⟩ | ⟨k, -, heq⟩ := htrace
  · have hcontext := hname.worldOk.span_context _ hhas.lt
    rw [← hvalue]
    exact (hname.worldOk.traces _ hcontext (hname.context_real hhas.lt hhas.real)).2.1 id hid
  · rw [heq]
    exact (envs node.process).uuid1_ne_empty k

/-- What a call in a fleet writes down. -/
theorem Sound.writes (h : f.Sound envs) (hhonest : f.Honest action)
    (henabled : action.call.Enabled (f.world action.process)) {Q : SpanName → Prop}
    (hQ : ∀ name, f.Known envs f.announced name → Q name)
    (hfinished : ∀ task self answers call, action.call = .newSpan task self answers call →
      ∀ top ∈ action.call.announces (f.world action.process), ∀ name,
        (f.world action.process).NamedBy (envs action.process) top name → Q name) :
    Writes (envs action.process) (fun s => action.call.taker (f.world action.process) = some s) Q
      (f.Known envs (f.call envs action).announced) (f.world action.process)
      (action.call.run (envs action.process) (f.world action.process)) := by
  obtain ⟨hdelivers, hhands⟩ := hhonest
  have hname := h.nameable action.process
  have hlt : ∀ s ∈ action.call.announces (f.world action.process), s < (f.world action.process).spans.size :=
    fun s hs => ApiAction.announces_lt hname.worldOk henabled hs
  have hknown : ∀ s ∈ action.call.announces (f.world action.process), ∀ name,
      (f.world action.process).NamedBy (envs action.process) s name →
        f.Known envs (f.call envs action).announced name := by
    intro s hs name hnamed
    refine ⟨⟨action.process, s⟩, List.mem_append_right _ ?_, hnamed⟩
    exact List.mem_map.mpr ⟨s, Option.mem_toList.mpr hs, rfl⟩
  have hold : ∀ name, f.Known envs f.announced name → f.Known envs (f.call envs action).announced name :=
    fun name hknown' => hknown'.mono (List.subset_append_left _ _)
  refine ApiAction.writes henabled hhands ?_ ?_ ?_ ?_ ?_ ?_
  · exact fun a ha name hgives => hQ name (h.carriers _ a ha name hgives)
  · intro a ha name hgives
    have hknown' := h.snapshots _ a ha name hgives
    exact ⟨hQ name hknown', h.traceId_ne hknown'⟩
  · intro task self answers call heq top htop name hgives
    exact hfinished task self answers call heq top htop name (hname.carrierOf_names (hlt top htop) hgives)
  · intro sw8 correlation heq name hgives
    rw [heq] at hdelivers
    obtain rfl | hflight := hdelivers
    · obtain ⟨d, hgives⟩ := hgives
      have hempty : ((Carrier.fresh d).setVal "").1.Gives name → (Carrier.fresh d).Gives name := id
      exact absurd (hempty hgives) (Carrier.not_gives_fresh d name)
    · exact hold name (h.flight sw8 hflight name hgives)
  · exact fun s hs name hgives => hknown s hs name (hname.carrierOf_names (hlt s hs) hgives)
  · intro s hs c _ _ hown bottom correlation name hgives
    exact hknown s hs name (hname.snapshotOf_names (hlt s hs) hown hgives)

/-- A call in a process that is in order, and what it leaves as it is. -/
theorem Sound.evolves (h : f.Sound envs) (hhonest : f.Honest action) (hstep : Step envs f action f') :
    WorldOk (envs action.process) (f'.world action.process) ∧ (f'.world action.process).Alone ∧
      Evolves (f.world action.process) (f'.world action.process) ∧
      Written (envs action.process) (fun s => action.call.taker (f.world action.process) = some s)
        (f.Known envs f'.announced) (f.Known envs f'.announced) (f.world action.process)
        (f'.world action.process) := by
  obtain ⟨henabled, rfl⟩ := hstep
  have hname := h.nameable action.process
  have hwrites := h.writes hhonest henabled (Q := f.Known envs (f.call envs action).announced)
    (fun name hknown => hknown.mono (List.subset_append_left _ _)) fun _ _ _ _ _ top htop name hnamed =>
      ⟨⟨action.process, top⟩, List.mem_append_right _
        (List.mem_map.mpr ⟨top, Option.mem_toList.mpr htop, rfl⟩), hnamed⟩
  have hworld : (f.call envs action).world action.process =
      action.call.run (envs action.process) (f.world action.process) := Function.update_self _ _ _
  rw [hworld]
  exact hwrites hname.worldOk hname.alone

theorem Step.apiStep (hstep : Step envs f action f') :
    ApiStep (envs action.process) (f.world action.process) action.call (f'.world action.process) := by
  obtain ⟨henabled, rfl⟩ := hstep
  exact ⟨henabled, Function.update_self _ _ _⟩

theorem Step.world_of_ne (hstep : Step envs f action f') {p : Nat} (hne : p ≠ action.process) :
    f'.world p = f.world p := by
  obtain ⟨-, rfl⟩ := hstep
  exact Function.update_of_ne hne _ _

theorem Known.step (hknown : f.Known envs nodes name) (h : f.Sound envs) (hhonest : f.Honest action)
    (hstep : Step envs f action f') : f'.Known envs nodes name := by
  obtain ⟨node, hmem, hnamed⟩ := hknown
  refine ⟨node, hmem, ?_⟩
  by_cases hp : node.process = action.process
  · obtain ⟨p, t⟩ := node
    obtain rfl : p = action.process := hp
    obtain ⟨-, -, hevolves, hwritten⟩ := h.evolves hhonest hstep
    exact hnamed.step (h.nameable action.process) hstep.apiStep hevolves hwritten
  · rw [hstep.world_of_ne hp]
    exact hnamed

/-- **Every name that is written down is that of an announced span**, whatever the fleet does. -/
theorem Sound.step (h : f.Sound envs) (hhonest : f.Honest action) (hstep : Step envs f action f') :
    f'.Sound envs := by
  obtain ⟨hok, halone, hevolves, hwritten⟩ := h.evolves hhonest hstep
  have hsub : f.announced ⊆ f'.announced := hstep.2 ▸ List.subset_append_left _ _
  have hold : ∀ {name}, f.Known envs f.announced name → f'.Known envs f'.announced name :=
    fun hknown => (hknown.mono hsub).step h hhonest hstep
  have hnew : ∀ {name}, f.Known envs f'.announced name → f'.Known envs f'.announced name :=
    fun hknown => hknown.step h hhonest hstep
  constructor
  · intro p
    by_cases hp : p = action.process
    · subst hp
      exact (h.nameable action.process).step hstep.apiStep hwritten hok halone hevolves
    · rw [hstep.world_of_ne hp]
      exact h.nameable p
  · intro p a ha name hgives
    by_cases hp : p = action.process
    · subst hp
      obtain ⟨hlt, hbefore⟩ | hafter := hwritten.carriers a ha name hgives
      · exact hold (h.carriers _ a hlt name hbefore)
      · exact hnew hafter
    · rw [hstep.world_of_ne hp] at ha hgives
      exact hold (h.carriers p a ha name hgives)
  · intro p a ha name hgives
    by_cases hp : p = action.process
    · subst hp
      obtain ⟨hlt, hbefore⟩ | hafter := hwritten.snapshots a ha name hgives
      · exact hold (h.snapshots _ a hlt name hbefore)
      · exact hnew hafter
    · rw [hstep.world_of_ne hp] at ha hgives
      exact hold (h.snapshots p a ha name hgives)
  · intro p s hs ref href
    by_cases hp : p = action.process
    · subst hp
      obtain ⟨hlt, hbefore⟩ | ⟨-, hafter, hlists⟩ := hwritten.refs s hs ref href
      · obtain ⟨hknown, hlists⟩ := h.refs _ s hlt ref hbefore
        exact ⟨hold hknown, hlists.evolves (h.nameable _).worldOk hlt hevolves hwritten⟩
      · exact ⟨hnew hafter, hlists⟩
    · rw [hstep.world_of_ne hp] at hs href ⊢
      obtain ⟨hknown, hlists⟩ := h.refs p s hs ref href
      exact ⟨hold hknown, hlists⟩
  · intro sw8 hsw8 name hgives
    have hflight : f'.flight = f.flight ++ action.call.sends (envs action.process) (f.world action.process) :=
      hstep.2 ▸ rfl
    rw [hflight] at hsw8
    obtain hbefore | hsent := List.mem_append.mp hsw8
    · exact hold (h.flight sw8 hbefore name hgives)
    · obtain ⟨t, ht, -, hnamed⟩ := (h.nameable action.process).sends_names hstep.1 hsent hgives
      refine hnew ⟨⟨action.process, t⟩, ?_, hnamed⟩
      rw [hstep.2]
      exact List.mem_append_right _ (List.mem_map.mpr ⟨t, Option.mem_toList.mpr ht, rfl⟩)

theorem sound_run {actions : List FleetAction} (hrun : Run (Guarded Honest (Step envs)) .init actions f) :
    f.Sound envs :=
  hrun.invariant (fun _ _ _ h hstep => h.step hstep.1 hstep.2) (sound_init envs)

/-- Two spans of a fleet do not have one place. -/
theorem Sound.has_unique (h : f.Sound envs) (hapart : Apart envs) {q q' t t' : Nat} {segmentId : String}
    {spanId : Int} (hhas : (f.world q).Has t segmentId spanId)
    (hhas' : (f.world q').Has t' segmentId spanId) : q' = q ∧ t' = t := by
  have hname := h.nameable q
  have hname' := h.nameable q'
  have hreal := hname.context_real hhas.lt hhas.real
  have hreal' := hname'.context_real hhas'.lt hhas'.real
  have hc := hname.worldOk.span_context t hhas.lt
  have hc' := hname'.worldOk.span_context t' hhas'.lt
  obtain ⟨k, -, hk⟩ := hname.worldOk.segment_id _ hc hreal
  obtain ⟨k', -, hk'⟩ := hname'.worldOk.segment_id _ hc' hreal'
  have huuid : (envs q').uuid1 k' = (envs q).uuid1 k := by
    rw [← hk, ← hk', hhas.segmentId_eq, hhas'.segmentId_eq]
  obtain rfl := hapart q' q k' k huuid
  refine ⟨rfl, ?_⟩
  have hsegment := hhas.segmentId_eq.trans hhas'.segmentId_eq.symm
  have hcontext : ((f.world q').span t).context = ((f.world q').span t').context := by
    obtain hlt | heq | hlt := lt_trichotomy ((f.world q').span t).context ((f.world q').span t').context
    · exact absurd hsegment (hname.distinct _ hc' hreal' _ hlt hreal)
    · exact heq
    · exact absurd hsegment.symm (hname.distinct _ hc hreal _ hlt hreal')
  exact hname.inv.sid_inj t' hhas'.lt t hhas.lt (toLedger_real.mpr hhas'.real) (toLedger_real.mpr hhas.real)
    hcontext.symm (hhas'.spanId_eq.trans hhas.spanId_eq.symm)

theorem Sound.linked (h : f.Sound envs) (hapart : Apart envs) : f.Linked envs where
  resolves p s hs ref href := by
    obtain ⟨⟨node, -, hnamed⟩, -⟩ := h.refs p s hs ref href
    exact ⟨node.process, node.span, hnamed, fun q' t' hhas => h.has_unique hapart hnamed.has hhas⟩
  lists p s hs ref href := (h.refs p s hs ref href).2

/-- **References resolve.** In every run of a fleet in which messages may be lost, repeated and delayed but
are not made up, each reference of each span names exactly one span of the fleet, and its trace is listed in
the segment of the span that holds it. -/
theorem references_resolve (envs : Nat → Env) (hapart : Apart envs) {actions : List FleetAction} {f : Fleet}
    (hrun : Run (Guarded Honest (Step envs)) .init actions f) : f.Linked envs :=
  (sound_run hrun).linked hapart

theorem step_of_next {action : FleetAction} (h : f.next envs action = some f') : Step envs f action f' := by
  rw [next] at h
  split at h
  · next henabled => exact ⟨henabled, (Option.some.inj h).symm⟩
  · cases h

/-- Calls that are tested one by one. -/
theorem exists_run {guard : Fleet → FleetAction → Prop} [∀ f action, Decidable (guard f action)]
    {actions : List FleetAction} {P : Fleet → Prop} [DecidablePred P]
    (h : (actions.foldlM (fun f action => if decide (guard f action) then f.next envs action else none)
      Fleet.init).any (fun f => decide (P f)) = true) :
    ∃ f, Run (Guarded guard (Step envs)) .init actions f ∧ P f := by
  obtain ⟨f, hrun, hP⟩ := Run.exists_of_guarded_foldlM h
  refine ⟨f, hrun.mono ?_, hP⟩
  rintro f action f' ⟨hguard, hnext⟩
  exact ⟨of_decide_eq_true hguard, step_of_next hnext⟩

/-- Two agents with identifiers of their own. -/
def sampleEnvs (p : Nat) : Env :=
  { Env.sample with
    uuid1 := fun n => String.ofList (List.replicate p 'b' ++ List.replicate (n + 1) 'a')
    uuid1_ne_empty := by
      intro n hempty
      have hlength := congrArg String.length hempty
      simp at hlength
    uuid1_injective := by
      intro n m heq
      have hlength := congrArg String.length heq
      simpa using hlength }

theorem apart_sampleEnvs : Apart sampleEnvs := by
  intro p q n m heq
  have hcount := congrArg (fun s : String => s.toList.count 'b') heq
  simpa [sampleEnvs, List.count_replicate] using hcount

/-- A page calls a service; the message arrives twice, and the service goes on in a thread. -/
def pageActions : List FleetAction :=
  [⟨0, .getContext 0 true⟩,
    ⟨0, .newSpan 0 0 ⟨false, false⟩ (.newEntrySpan "/home" none none)⟩,
    ⟨0, .start 0 0⟩,
    ⟨0, .newSpan 0 0 ⟨false, false⟩ (.newExitSpan "/users" (some "users:80") none none)⟩,
    ⟨0, .start 0 1⟩,
    ⟨0, .inject 1⟩,
    ⟨1, .receive "1-YWE=-YQ==-1-UHl0aG9uIFNlcnZpY2UgTmFtZQ==-aW5zdGFuY2U=-L3VzZXJz-dXNlcnM6ODA=" ""⟩,
    ⟨1, .getContext 0 true⟩,
    ⟨1, .newSpan 0 0 ⟨false, false⟩ (.newEntrySpan "/users" (some 0) none)⟩,
    ⟨1, .start 0 0⟩,
    ⟨0, .stop 0 1 false⟩,
    ⟨1, .capture 0 0⟩,
    ⟨1, .getContext 1 true⟩,
    ⟨1, .newSpan 1 1 ⟨false, false⟩ (.newLocalSpan "job")⟩,
    ⟨1, .start 1 1⟩,
    ⟨1, .continued 1 1 0⟩,
    ⟨1, .receive "1-YWE=-YQ==-1-UHl0aG9uIFNlcnZpY2UgTmFtZQ==-aW5zdGFuY2U=-L3VzZXJz-dXNlcnM6ODA=" ""⟩,
    ⟨1, .getContext 2 true⟩,
    ⟨1, .newSpan 2 2 ⟨false, false⟩ (.newEntrySpan "/users" (some 1) none)⟩,
    ⟨1, .start 2 2⟩]

/-- What the spans of the service refer to. -/
def serviceRefs (f : Fleet) : List (String × String × Int) :=
  (List.range (f.world 1).spans.size).flatMap fun s =>
    ((f.world 1).span s).refs.map fun ref => (ref.traceId, ref.segmentId, ref.spanId)

theorem page_references_resolve :
    ∃ f, Run (Guarded Honest (Step sampleEnvs)) .init pageActions f ∧
      serviceRefs f = [("aa", "a", 1), ("aa", "ba", 0), ("aa", "a", 1)] ∧ f.Linked sampleEnvs := by
  have htest : (pageActions.foldlM (fun f action =>
      if decide (f.Honest action) then f.next sampleEnvs action else none) Fleet.init).any (fun f =>
        decide (serviceRefs f = [("aa", "a", 1), ("aa", "ba", 0), ("aa", "a", 1)])) = true := by
    decide +kernel
  obtain ⟨f, hrun, hrefs⟩ := exists_run htest
  exact ⟨f, hrun, hrefs, references_resolve sampleEnvs apart_sampleEnvs hrun⟩

end Fleet

end SkyWalking
