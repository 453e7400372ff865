import SkyWalking.Lib.Descent
import SkyWalking.Proof.FleetLemmas

/-!
# Nothing causes itself

A call gives edges to one span at most. That span is new, or its name was not handed out and it has no
child: nothing leads to it, and so no cycle is closed.
-/

namespace SkyWalking.Fleet

open World

variable {envs : Nat → Env} {f f' : Fleet} {action : FleetAction}

/-- The spans of a process hang together, and all names are those of announced spans. -/
structure Rooted (envs : Nat → Env) (f : Fleet) : Prop where
  sound : f.Sound envs
  treed : ∀ p, (f.world p).Treed (envs p)
  announced_lt : ∀ node ∈ f.announced, node.span < (f.world node.process).spans.size

theorem rooted_init (envs : Nat → Env) : Fleet.init.Rooted envs where
  sound := sound_init envs
  treed p := treed_init (envs p)
  announced_lt _ h := by cases h

/-- A span that a call may give references to is new, or a leaf. -/
theorem taker_cases (hcausal : f.Causal action) {s : Nat}
    (htaker : action.call.taker (f.world action.process) = some s) :
    s = (f.world action.process).spans.size ∨
      (((f.world action.process).span s).cls ≠ .NoopSpan → f.Leaf ⟨action.process, s⟩) ∧
        ∀ task self answers call, action.call ≠ .newSpan task self answers call := by
  obtain ⟨-, -, hfirst⟩ := hcausal
  obtain ⟨p, call⟩ := action
  cases call with
  | newSpan task self answers call => exact .inl (Option.some.inj htaker).symm
  | extract span carrier =>
      obtain rfl := Option.some.inj htaker
      exact .inr ⟨hfirst, by simp⟩
  | continued task self snapshot => exact .inr ⟨hfirst s htaker, by simp⟩
  | _ => cases htaker

section Step

variable (h : f.Rooted envs) (hstep : Step envs f action f')

include h hstep

theorem Rooted.extends : (f.world action.process).ledger.Extends (f'.world action.process).ledger :=
  hstep.apiStep.extends (h.sound.nameable action.process).inv

theorem Rooted.step (hhonest : f.Honest action)
    (hcontext : InContext (f.world action.process) action.call) : f'.Rooted envs where
  sound := h.sound.step hhonest hstep
  treed p := by
    by_cases hp : p = action.process
    · subst hp
      exact (h.treed action.process).step hcontext hstep.apiStep
    · rw [hstep.world_of_ne hp]
      exact h.treed p
  announced_lt node hmem := by
    have hsize : ∀ p, (f.world p).spans.size ≤ (f'.world p).spans.size := by
      intro p
      by_cases hp : p = action.process
      · subst hp
        exact (h.extends hstep).size_le
      · rw [hstep.world_of_ne hp]
    rw [hstep.2] at hmem
    obtain hold | hnew := List.mem_append.mp hmem
    · exact (h.announced_lt node hold).trans_le (hsize _)
    · obtain ⟨s, hs, rfl⟩ := List.mem_map.mp hnew
      have hok := (h.sound.nameable action.process).worldOk
      exact (ApiAction.announces_lt hok hstep.1 (Option.mem_toList.mp hs)).trans_le (hsize _)

/-- A span that was not there before is the one that the call may give references to. -/
theorem Rooted.isSpan_old {a : Node} (ha : f'.IsSpan a)
    (hnot : ¬ (a.process = action.process ∧
      action.call.taker (f.world action.process) = some a.span)) : f.IsSpan a := by
  by_cases hp : a.process = action.process
  · obtain ⟨p, s⟩ := a
    obtain rfl : p = action.process := hp
    obtain ⟨hlt, hreal⟩ := ha
    obtain ⟨hle, hsame⟩ := action.call.spans_size_le (envs action.process) (f.world action.process)
    have hrun := hstep.apiStep.2
    dsimp only at hlt hreal hnot
    by_cases hold : s < (f.world action.process).spans.size
    · have hnoop := ((h.extends hstep).same s hold).1
      exact ⟨hold, toLedger_real.mp (hnoop.symm.trans (toLedger_real.mpr hreal))⟩
    · rw [hrun] at hlt
      by_cases hnew : ∃ task self answers call, action.call = .newSpan task self answers call
      · obtain ⟨task, self, answers, call, heq⟩ := hnew
        refine absurd ⟨rfl, ?_⟩ hnot
        have hs : (f.world action.process).spans.size = s := by omega
        rw [heq, ApiAction.taker, hs]
      · have hsize := hsame fun task self answers call heq => hnew ⟨task, self, answers, call, heq⟩
        omega
  · have hworld := hstep.world_of_ne hp
    simpa only [IsSpan, hworld] using ha

/-- What a call refers to was announced, or is the finished parent of the span that it creates. -/
def Referable (f : Fleet) (action : FleetAction) (node : Node) : Prop :=
  node ∈ f.announced ∨ (∃ task self answers call, action.call = .newSpan task self answers call) ∧
    node.process = action.process ∧ node.span < (f.world action.process).spans.size

theorem Rooted.refs_of_step (hcausal : f.Causal action) {s : Nat}
    (hs : s < (f'.world action.process).spans.size) {ref : SegmentRef}
    (href : ref ∈ ((f'.world action.process).span s).refs) :
    (s < (f.world action.process).spans.size ∧ ref ∈ ((f.world action.process).span s).refs) ∨
      action.call.taker (f.world action.process) = some s ∧ ∃ node, f.Referable action node ∧
        (f.world node.process).NamedBy (envs node.process) node.span ref.name := by
  have hname := h.sound.nameable action.process
  have hwrites := h.sound.writes (Q := fun name => ∃ node, f.Referable action node ∧
    (f.world node.process).NamedBy (envs node.process) node.span name) hcausal.1 hstep.1 ?_ ?_
  · rw [← hstep.apiStep.2] at hwrites
    obtain ⟨-, -, -, hwritten⟩ := hwrites hname.worldOk hname.alone
    obtain hold | ⟨htaker, hknown, -⟩ := hwritten.refs s hs ref href
    · exact .inl hold
    · exact .inr ⟨htaker, hknown⟩
  · rintro name ⟨node, hmem, hnamed⟩
    exact ⟨node, .inl hmem, hnamed⟩
  · intro task self answers call heq top htop name hnamed
    have hlt := ApiAction.announces_lt hname.worldOk hstep.1 htop
    exact ⟨⟨action.process, top⟩, .inr ⟨⟨task, self, answers, call, heq⟩, rfl, hlt⟩, hnamed⟩

theorem Rooted.not_referable (hcausal : f.Causal action) {s : Nat}
    (htaker : action.call.taker (f.world action.process) = some s)
    (hreal : ((f'.world action.process).span s).cls ≠ .NoopSpan) :
    ¬ f.Referable action ⟨action.process, s⟩ := by
  intro href
  obtain rfl | ⟨hleaf, hnot⟩ := taker_cases hcausal htaker
  · obtain hmem | ⟨-, -, hlt⟩ := href
    · exact absurd (h.announced_lt _ hmem) (lt_irrefl _)
    · exact absurd hlt (lt_irrefl _)
  · obtain hmem | ⟨⟨task, self, answers, call, heq⟩, -⟩ := href
    · have hlt := h.announced_lt _ hmem
      have hnoop := ((h.extends hstep).same s hlt).1
      refine (hleaf ?_).1 hmem
      exact toLedger_real.mp (hnoop.symm.trans (toLedger_real.mpr hreal))
    · exact hnot task self answers call heq

/-- Nothing leads to the span that a call gives edges to. -/
theorem Rooted.not_causedBy (hapart : Apart envs) (hcausal : f.Causal action) {s : Nat}
    (htaker : action.call.taker (f.world action.process) = some s) (a : Node) :
    ¬ f'.CausedBy a ⟨action.process, s⟩ := by
  rintro ⟨ha, hx, hedge⟩
  have h' := h.step hstep hcausal.1 hcausal.2.1
  have hname' := h'.sound.nameable action.process
  have hparented' := (h'.treed action.process).parented
  obtain hchild | ⟨ref, href, hhas⟩ := hedge
  · obtain ⟨hp, hcontext, hpid⟩ := hchild
    obtain ⟨p, t⟩ := a
    obtain rfl : p = action.process := hp
    dsimp only at hcontext hpid
    have hsid := hname'.sid_nonneg hx.1 hx.2
    have hroot : ((f'.world action.process).ledger.span t).pid ≠ -1 := by
      rw [show ((f'.world action.process).ledger.span t).pid = _ from hpid]
      dsimp only at hsid
      omega
    have hrealt := toLedger_real.mpr ha.2
    -- a child has a larger number than its parent
    have hne : t ≠ s := by
      rintro rfl
      obtain ⟨-, -, -, -, -, hlt, -⟩ := hparented'.parent t ha.1 hrealt hroot
      rw [show ((f'.world action.process).ledger.span t).pid = _ from hpid] at hlt
      exact absurd hlt (lt_irrefl _)
    have hold := h.isSpan_old hstep ha fun hnew => hne (Option.some.inj (hnew.2.symm.trans htaker))
    obtain ⟨hnoop, hcontext', hsid', hpid'⟩ := (h.extends hstep).same t hold.1
    obtain rfl | ⟨hleaf, hnot⟩ := taker_cases hcausal htaker
    · -- the parent of a span that was there before was there before
      obtain ⟨q, hq, hrealq, hcontextq, hsidq, -⟩ := (h.treed action.process).parented.parent t hold.1
        (toLedger_real.mpr hold.2) (hpid' ▸ hroot)
      obtain ⟨hnoopq, hcontextq', hsidq', -⟩ := (h.extends hstep).same q hq
      have hqlt := hq.trans_le (h.extends hstep).size_le
      have hsame : q = (f.world action.process).spans.size := by
        refine hname'.inv.sid_inj q hqlt _ hx.1 (hnoopq.trans hrealq) (toLedger_real.mpr hx.2) ?_ ?_
        · exact (hcontextq'.trans (hcontextq.trans hcontext'.symm)).trans hcontext
        · exact (hsidq'.trans (hsidq.trans hpid'.symm)).trans hpid
      exact absurd hq (hsame ▸ lt_irrefl _)
    · have hsize := ((action.call.spans_size_le (envs action.process) (f.world action.process)).2 hnot).symm
      rw [← hstep.apiStep.2] at hsize
      have hs : s < (f.world action.process).spans.size := hsize ▸ hx.1
      obtain ⟨hnoops, hcontexts, hsids, -⟩ := (h.extends hstep).same s hs
      have hreals := toLedger_real.mp (hnoops.symm.trans (toLedger_real.mpr hx.2))
      refine (hleaf hreals).2 t hold.1 hold.2 ⟨rfl, ?_, ?_⟩
      · exact (hcontext'.symm.trans hcontext).trans hcontexts
      · exact (hpid'.symm.trans hpid).trans hsids
  · obtain ⟨p, t⟩ := a
    -- whom the reference names was there before, and may be referred to
    have hnamed : ∃ node, f.Referable action node ∧ f.Known envs [node] ref.name := by
      by_cases hp : p = action.process
      · subst hp
        obtain ⟨hlt, hold⟩ | ⟨-, node, hnode, hnamed⟩ := h.refs_of_step hstep hcausal ha.1 href
        · obtain ⟨⟨node, hmem, hnamed⟩, -⟩ := h.sound.refs _ t hlt ref hold
          exact ⟨node, .inl hmem, node, List.mem_singleton_self node, hnamed⟩
        · exact ⟨node, hnode, node, List.mem_singleton_self node, hnamed⟩
      · have hlt := ha.1
        dsimp only at hlt href
        rw [hstep.world_of_ne hp] at hlt href
        obtain ⟨⟨node, hmem, hnamed⟩, -⟩ := h.sound.refs p t hlt ref href
        exact ⟨node, .inl hmem, node, List.mem_singleton_self node, hnamed⟩
    obtain ⟨node, hnode, hknown⟩ := hnamed
    obtain ⟨found, hmem, hnamed'⟩ := hknown.step h.sound hcausal.1 hstep
    obtain ⟨hprocess, hspan⟩ := h'.sound.has_unique hapart hhas hnamed'.has
    obtain rfl : found = ⟨action.process, s⟩ := Node.ext hprocess hspan
    exact h.not_referable hstep hcausal htaker hx.2 (List.mem_singleton.mp hmem ▸ hnode)

/-- What edges are made of does not change. -/
theorem Rooted.span_same (hcausal : f.Causal action) (c : Node) (hc : f.IsSpan c) :
    ((f'.world c.process).span c.span).context = ((f.world c.process).span c.span).context ∧
      ((f'.world c.process).span c.span).sid = ((f.world c.process).span c.span).sid ∧
      ((f'.world c.process).span c.span).pid = ((f.world c.process).span c.span).pid ∧
      ((f'.world c.process).context ((f'.world c.process).span c.span).context).segment.segmentId.value =
        ((f.world c.process).context ((f.world c.process).span c.span).context).segment.segmentId.value := by
  obtain ⟨p, s⟩ := c
  obtain ⟨hlt, -⟩ := hc
  by_cases hp : p = action.process
  · subst hp
    obtain ⟨-, hcontext, hsid, hpid⟩ := (h.extends hstep).same s hlt
    obtain ⟨-, -, hevolves, -⟩ := h.sound.evolves hcausal.1 hstep
    have hlt' := (h.sound.nameable action.process).worldOk.span_context s hlt
    have hsegment := (hevolves.context_same _ hlt').2
    have hcontext' : ((f'.world action.process).span s).context = ((f.world action.process).span s).context :=
      hcontext
    refine ⟨hcontext, hsid, hpid, ?_⟩
    rw [hcontext', hsegment]
  · dsimp only
    rw [hstep.world_of_ne hp]
    exact ⟨rfl, rfl, rfl, rfl⟩

theorem Rooted.causedBy_old (hapart : Apart envs) (hcausal : f.Causal action) {a b : Node}
    (hedge : f'.CausedBy a b) (hnot : ¬ (a.process = action.process ∧
      action.call.taker (f.world action.process) = some a.span)) : f.CausedBy a b := by
  have hb : ¬ (b.process = action.process ∧
      action.call.taker (f.world action.process) = some b.span) := by
    rintro ⟨hp, htaker⟩
    obtain ⟨p, s⟩ := b
    obtain rfl : p = action.process := hp
    exact h.not_causedBy hstep hapart hcausal htaker a hedge
  obtain ⟨ha, hb', hedge⟩ := hedge
  have holda := h.isSpan_old hstep ha hnot
  have holdb := h.isSpan_old hstep hb' hb
  refine ⟨holda, holdb, ?_⟩
  obtain ⟨hcontexta, -, hpida, -⟩ := h.span_same hstep hcausal a holda
  obtain ⟨hcontextb, hsidb, -, hsegmentb⟩ := h.span_same hstep hcausal b holdb
  obtain ⟨hp, hcontext, hpid⟩ | ⟨ref, href, hhas⟩ := hedge
  · exact .inl ⟨hp, hcontexta.symm.trans (hcontext.trans hcontextb), hpida.symm.trans (hpid.trans hsidb)⟩
  · refine .inr ⟨ref, ?_, holdb.1, holdb.2, hsegmentb.symm.trans hhas.segmentId_eq, hsidb.symm.trans hhas.spanId_eq⟩
    by_cases hp : a.process = action.process
    · obtain ⟨p, t⟩ := a
      obtain rfl : p = action.process := hp
      obtain ⟨-, hbefore⟩ | ⟨htaker, -⟩ := h.refs_of_step hstep hcausal ha.1 href
      · exact hbefore
      · exact absurd ⟨rfl, htaker⟩ hnot
    · rw [hstep.world_of_ne hp] at href
      exact href

theorem Rooted.ranked (hapart : Apart envs) (hcausal : f.Causal action) (hranked : Ranked f.CausedBy) :
    Ranked f'.CausedBy := by
  cases htaker : action.call.taker (f.world action.process) with
  | none =>
      refine hranked.mono fun a b hedge => h.causedBy_old hstep hapart hcausal hedge ?_
      rintro ⟨-, hsome⟩
      rw [htaker] at hsome
      cases hsome
  | some s =>
      refine hranked.raise ⟨action.process, s⟩ (fun a b hedge => ?_)
        fun a => h.not_causedBy hstep hapart hcausal htaker a
      by_cases ha : a.process = action.process ∧ action.call.taker (f.world action.process) = some a.span
      · refine .inr (Node.ext ha.1 ?_)
        exact Option.some.inj (ha.2.symm.trans htaker)
      · exact .inl (h.causedBy_old hstep hapart hcausal hedge ha)

end Step

theorem rooted_run (hapart : Apart envs) {actions : List FleetAction}
    (hrun : Run (Guarded Causal (Step envs)) .init actions f) : f.Rooted envs ∧ Ranked f.CausedBy := by
  refine hrun.invariant (I := fun f => f.Rooted envs ∧ Ranked f.CausedBy) ?_ ⟨rooted_init envs, ?_⟩
  · rintro f action f' ⟨h, hranked⟩ ⟨hcausal, hstep⟩
    exact ⟨h.step hstep hcausal.1 hcausal.2.1, h.ranked hstep hapart hcausal hranked⟩
  · refine .of_empty fun a b hedge => ?_
    exact absurd hedge.1.1 (Nat.not_lt_zero _)

/-- A span that nothing caused has neither a parent nor a reference. -/
theorem Rooted.origin (h : f.Rooted envs) {a : Node} (ha : f.IsSpan a) (hend : ∀ b, ¬ f.CausedBy a b) :
    ((f.world a.process).span a.span).pid = -1 ∧ ((f.world a.process).span a.span).refs = [] := by
  obtain ⟨p, s⟩ := a
  constructor
  · by_contra hpid
    obtain ⟨q, hq, hreal, hcontext, hsid, -⟩ :=
      (h.treed p).parented.parent s ha.1 (toLedger_real.mpr ha.2) hpid
    exact hend ⟨p, q⟩ ⟨ha, ⟨hq, toLedger_real.mp hreal⟩, .inl ⟨rfl, hcontext.symm, hsid.symm⟩⟩
  · rw [List.eq_nil_iff_forall_not_mem]
    intro ref href
    obtain ⟨⟨node, -, hnamed⟩, -⟩ := h.sound.refs p s ha.1 ref href
    exact hend node ⟨ha, ⟨hnamed.has.lt, hnamed.has.real⟩, .inr ⟨ref, href, hnamed.has⟩⟩

theorem Rooted.founded (h : f.Rooted envs) (hranked : Ranked f.CausedBy) : f.Founded where
  acyclic a := hranked.not_transGen a
  origin a ha := by
    obtain ⟨b, hpath, hend⟩ := hranked.exists_end a
    have hb : f.IsSpan b := by
      induction hpath with
      | refl => exact ha
      | tail _ hedge _ => exact hedge.2.1
    exact ⟨b, hpath, hb, h.origin hb hend⟩

/-- **Nothing causes itself.** In every run of a fleet in which spans take up references before anything
follows from them, parents and references form no cycle, and every span goes back to one that has neither. -/
theorem traces_are_founded (envs : Nat → Env) (hapart : Apart envs) {actions : List FleetAction} {f : Fleet}
    (hrun : Run (Guarded Causal (Step envs)) .init actions f) : f.Founded := by
  obtain ⟨hrooted, hranked⟩ := rooted_run hapart hrun
  exact hrooted.founded hranked

theorem page_traces_are_founded :
    ∃ f, Run (Guarded Causal (Step sampleEnvs)) .init pageActions f ∧
      serviceRefs f = [("aa", "a", 1), ("aa", "ba", 0), ("aa", "a", 1)] ∧ f.Founded := by
  have htest : (pageActions.foldlM (fun f action =>
      if decide (f.Causal action) then f.next sampleEnvs action else none) Fleet.init).any (fun f =>
        decide (serviceRefs f = [("aa", "a", 1), ("aa", "ba", 0), ("aa", "a", 1)])) = true := by
    decide +kernel
  obtain ⟨f, hrun, hrefs⟩ := exists_run htest
  exact ⟨f, hrun, hrefs, traces_are_founded sampleEnvs apart_sampleEnvs hrun⟩

end SkyWalking.Fleet
