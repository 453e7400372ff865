import SkyWalking.Trace.Ledger

/-!
# The ledger invariants

One lemma for each step and each of the two invariants. The only step that can break `Sealed` is
entering a span, and `Fresh` is exactly what it needs.
-/

namespace SkyWalking.Ledger

variable {l : Ledger}

section Effects

variable (l)

theorem span_newContext (noop : Bool) (s : Nat) : (l.newContext noop).span s = l.span s := rfl

theorem context_newContext_of_lt (noop : Bool) {c : Nat} (hc : c < l.contexts.size) :
    (l.newContext noop).context c = l.context c :=
  l.contexts.get_alloc_of_lt _ hc

theorem context_newContext_size (noop : Bool) :
    (l.newContext noop).context l.contexts.size = ⟨noop, 0, -1, []⟩ :=
  l.contexts.get_alloc_size _

theorem span_create_of_lt (context : Nat) (pid : Int) {s : Nat} (hs : s < l.spans.size) :
    (l.create context pid).span s = l.span s :=
  l.spans.get_alloc_of_lt _ hs

theorem span_create_size (context : Nat) (pid : Int) :
    (l.create context pid).span l.spans.size =
      ⟨false, context, 0, (l.context context).sid + 1, pid⟩ :=
  l.spans.get_alloc_size _

theorem context_create (context : Nat) (pid : Int) (c : Nat) :
    (l.create context pid).context c =
      if c = context then (l.context c).next else l.context c :=
  l.contexts.get_modify context _ c

theorem span_createNoop_of_lt (context : Nat) {s : Nat} (hs : s < l.spans.size) :
    (l.createNoop context).span s = l.span s :=
  l.spans.get_alloc_of_lt _ hs

theorem span_createNoop_size (context : Nat) :
    (l.createNoop context).span l.spans.size = ⟨true, context, 0, -1, -1⟩ :=
  l.spans.get_alloc_size _

theorem span_enter (span s : Nat) :
    (l.enter span).span s =
      if s = span then (l.span s).enter else l.span s :=
  l.spans.get_modify span _ s

theorem span_leave (span s : Nat) :
    (l.leave span).span s =
      if s = span then (l.span s).leave else l.span s :=
  l.spans.get_modify span _ s

theorem context_opened (context c : Nat) :
    (l.opened context).context c =
      if c = context then (l.context c).opened else l.context c :=
  l.contexts.get_modify context _ c

theorem context_closed (context span c : Nat) :
    (l.closed context span).context c =
      if c = context then (l.context c).closed span else l.context c :=
  l.contexts.get_modify context (fun c => c.closed span) c

theorem span_start (span s : Nat) :
    (l.start span).span s =
      if s = span then (l.span s).enter else l.span s := by
  unfold start
  split
  · exact l.span_enter span s
  · exact l.span_enter span s

theorem span_stop (span s : Nat) :
    (l.stop span).span s =
      if s = span then (l.span s).leave else l.span s := by
  unfold stop
  split
  · exact l.span_leave span s
  · exact l.span_leave span s

theorem context_start (span c : Nat) :
    (l.start span).context c =
      if (l.span span).depth = 0 ∧ c = (l.span span).context then
        (l.context c).opened
      else l.context c := by
  unfold start
  by_cases hdepth : (l.span span).depth = 0
  · rw [if_pos hdepth, context_opened]
    simp only [hdepth, true_and]
    rfl
  · rw [if_neg hdepth]
    simp only [hdepth, false_and, if_false]
    rfl

theorem context_stop (span c : Nat) :
    (l.stop span).context c =
      if (l.span span).depth = 1 ∧ c = (l.span span).context then
        (l.context c).closed span
      else l.context c := by
  unfold stop
  by_cases hdepth : (l.span span).depth = 1
  · rw [if_pos hdepth, context_closed]
    simp only [hdepth, true_and]
    rfl
  · rw [if_neg hdepth]
    simp only [hdepth, false_and, if_false]
    rfl

theorem span_stop_of_ne {span s : Nat} (hne : s ≠ span) : (l.stop span).span s = l.span s := by
  rw [span_stop, if_neg hne]

theorem sid_span_stop (span s : Nat) : ((l.stop span).span s).sid = (l.span s).sid := by
  rw [span_stop]
  split <;> rfl

theorem spans_size_start (span : Nat) : (l.start span).spans.size = l.spans.size := by
  unfold start
  split <;> rfl

theorem spans_size_stop (span : Nat) : (l.stop span).spans.size = l.spans.size := by
  unfold stop
  split <;> rfl

theorem contexts_size_start (span : Nat) : (l.start span).contexts.size = l.contexts.size := by
  unfold start
  split <;> rfl

theorem contexts_size_stop (span : Nat) : (l.stop span).contexts.size = l.contexts.size := by
  unfold stop
  split <;> rfl

theorem archived_start (span : Nat) : (l.start span).archived = l.archived := by
  unfold start
  split <;> rfl

theorem archived_stop (span : Nat) :
    (l.stop span).archived =
      if (l.span span).depth = 1 ∧ (l.context (l.span span).context).noop = false ∧
          (l.context (l.span span).context).nspans = 1 then
        l.archived ++ [(l.span span).context]
      else l.archived := by
  unfold stop
  by_cases hdepth : (l.span span).depth = 1
  · rw [if_pos hdepth]
    simp only [hdepth, true_and]
    rfl
  · rw [if_neg hdepth]
    simp only [hdepth, false_and, if_false]
    rfl

end Effects

theorem openSpans_newContext (noop : Bool) (c : Nat) :
    (l.newContext noop).openSpans c = l.openSpans c := rfl

theorem openSpans_alloc {l' : Ledger} (hsize : l'.spans.size = l.spans.size + 1)
    (hold : ∀ s < l.spans.size, l'.span s = l.span s) (hnew : (l'.span l.spans.size).depth = 0)
    (c : Nat) : l'.openSpans c = l.openSpans c := by
  ext s
  rw [mem_openSpans, mem_openSpans, hsize]
  rcases Nat.lt_trichotomy s l.spans.size with hlt | rfl | hgt
  · rw [hold s hlt]
    simp only [Nat.lt_succ_of_lt hlt, hlt]
  · simp [hnew]
  · constructor
    · rintro ⟨hs, _⟩
      omega
    · rintro ⟨hs, _⟩
      omega

theorem openSpans_start_self {span : Nat} (hspan : span < l.spans.size)
    (hdepth : (l.span span).depth = 0) :
    (l.start span).openSpans (l.span span).context =
      insert span (l.openSpans (l.span span).context) := by
  ext s
  rw [mem_openSpans, Finset.mem_insert, mem_openSpans, spans_size_start, span_start]
  by_cases hs : s = span
  · subst hs
    simp [hspan, hdepth, Span.enter]
  · simp [hs]

theorem openSpans_start_of_ne {span c : Nat}
    (hne : ¬ ((l.span span).depth = 0 ∧ c = (l.span span).context)) :
    (l.start span).openSpans c = l.openSpans c := by
  ext s
  rw [mem_openSpans, mem_openSpans, spans_size_start, span_start]
  by_cases hs : s = span
  · subst hs
    rw [if_pos rfl]
    constructor
    · rintro ⟨hlt, hcontext, hpos⟩
      refine ⟨hlt, hcontext, ?_⟩
      have hzero : (l.span s).depth ≠ 0 := fun h => hne ⟨h, hcontext.symm⟩
      simp only [Span.enter] at hpos
      omega
    · rintro ⟨hlt, hcontext, hpos⟩
      exact ⟨hlt, hcontext, by simp only [Span.enter]; omega⟩
  · rw [if_neg hs]

theorem openSpans_stop_self {span : Nat} (hdepth : (l.span span).depth = 1) :
    (l.stop span).openSpans (l.span span).context =
      (l.openSpans (l.span span).context).erase span := by
  ext s
  rw [mem_openSpans, Finset.mem_erase, mem_openSpans, spans_size_stop, span_stop]
  by_cases hs : s = span
  · subst hs
    simp [hdepth, Span.leave]
  · simp [hs]

theorem openSpans_stop_of_ne {span c : Nat}
    (hne : ¬ ((l.span span).depth = 1 ∧ c = (l.span span).context)) :
    (l.stop span).openSpans c = l.openSpans c := by
  ext s
  rw [mem_openSpans, mem_openSpans, spans_size_stop, span_stop]
  by_cases hs : s = span
  · subst hs
    rw [if_pos rfl]
    constructor
    · rintro ⟨hlt, hcontext, hpos⟩
      exact ⟨hlt, hcontext, by simp only [Span.leave] at hpos; omega⟩
    · rintro ⟨hlt, hcontext, hpos⟩
      have hone : (l.span s).depth ≠ 1 := fun h => hne ⟨h, hcontext.symm⟩
      exact ⟨hlt, hcontext, by simp only [Span.leave]; omega⟩
  · rw [if_neg hs]

theorem nspans_pos (hinv : l.Inv) {s : Nat} (hs : s < l.spans.size)
    (hdepth : 0 < (l.span s).depth) : 0 < (l.context (l.span s).context).nspans := by
  rw [hinv.nspans_eq _ (hinv.context_lt s hs)]
  have hmem : s ∈ l.openSpans (l.span s).context := mem_openSpans.mpr ⟨hs, rfl, hdepth⟩
  exact_mod_cast Finset.card_pos.mpr ⟨s, hmem⟩

theorem Inv.newContext (hinv : l.Inv) (noop : Bool) : (l.newContext noop).Inv where
  context_lt s hs := Nat.lt_succ_of_lt (hinv.context_lt s hs)
  noop_eq s hs := by
    rw [span_newContext, context_newContext_of_lt l noop (hinv.context_lt s hs)]
    exact hinv.noop_eq s hs
  nspans_eq c hc := by
    rw [openSpans_newContext]
    rcases Nat.lt_succ_iff_lt_or_eq.mp hc with hlt | rfl
    · rw [context_newContext_of_lt l noop hlt]
      exact hinv.nspans_eq c hlt
    · rw [context_newContext_size]
      have hempty : l.openSpans l.contexts.size = ∅ := by
        refine Finset.eq_empty_of_forall_notMem fun s hmem => ?_
        obtain ⟨hs, hcontext, _⟩ := mem_openSpans.mp hmem
        have hlt := hinv.context_lt s hs
        omega
      rw [hempty]
      rfl
  sid_ge c hc := by
    rcases Nat.lt_succ_iff_lt_or_eq.mp hc with hlt | rfl
    · rw [context_newContext_of_lt l noop hlt]
      exact hinv.sid_ge c hlt
    · rw [context_newContext_size]
  sid_nonneg := hinv.sid_nonneg
  sid_le s hs hreal := by
    rw [span_newContext, context_newContext_of_lt l noop (hinv.context_lt s hs)]
    exact hinv.sid_le s hs hreal
  sid_inj := hinv.sid_inj

theorem Inv.create (hinv : l.Inv) {context : Nat} (pid : Int) (hcontext : context < l.contexts.size)
    (hreal : (l.context context).noop = false) : (l.create context pid).Inv := by
  have hspan : ∀ s < (l.create context pid).spans.size,
      s < l.spans.size ∧ (l.create context pid).span s = l.span s ∨
        s = l.spans.size ∧ (l.create context pid).span s =
          ⟨false, context, 0, (l.context context).sid + 1, pid⟩ := by
    intro s hs
    rcases Nat.lt_succ_iff_lt_or_eq.mp hs with hlt | rfl
    · exact Or.inl ⟨hlt, l.span_create_of_lt context pid hlt⟩
    · exact Or.inr ⟨rfl, l.span_create_size context pid⟩
  have hnoop : ∀ c, ((l.create context pid).context c).noop = (l.context c).noop := by
    intro c
    rw [context_create]
    split <;> rfl
  have hsid : ∀ c, (l.context c).sid ≤ ((l.create context pid).context c).sid := by
    intro c
    rw [context_create]
    split
    · simp only [Context.next]
      omega
    · exact le_rfl
  have hself : ((l.create context pid).context context).sid = (l.context context).sid + 1 := by
    rw [context_create, if_pos rfl]
    rfl
  constructor
  · intro s hs
    rcases hspan s hs with ⟨hlt, heq⟩ | ⟨_, heq⟩
    · rw [heq]
      exact hinv.context_lt s hlt
    · rw [heq]
      exact hcontext
  · intro s hs
    rcases hspan s hs with ⟨hlt, heq⟩ | ⟨_, heq⟩
    · rw [heq, hnoop]
      exact hinv.noop_eq s hlt
    · rw [heq, hnoop, hreal]
  · intro c hc
    rw [openSpans_alloc rfl (fun s hs => l.span_create_of_lt context pid hs)
      (by rw [span_create_size]) c, ← hinv.nspans_eq c hc, context_create]
    split <;> rfl
  · intro c hc
    exact (hinv.sid_ge c hc).trans (hsid c)
  · intro s hs hnoopS
    rcases hspan s hs with ⟨hlt, heq⟩ | ⟨_, heq⟩
    · rw [heq] at hnoopS ⊢
      exact hinv.sid_nonneg s hlt hnoopS
    · rw [heq]
      have hge := hinv.sid_ge context hcontext
      simp only
      omega
  · intro s hs hnoopS
    rcases hspan s hs with ⟨hlt, heq⟩ | ⟨_, heq⟩
    · rw [heq] at hnoopS ⊢
      exact (hinv.sid_le s hlt hnoopS).trans (hsid _)
    · rw [heq]
      simp only [hself, le_refl]
  -- the new number is above all the numbers its context has handed out
  · have hlt_new : ∀ s < l.spans.size, (l.span s).noop = false → (l.span s).context = context →
        (l.span s).sid < (l.context context).sid + 1 := by
      intro s hs hnoopS hcontextS
      have hle := hinv.sid_le s hs hnoopS
      rw [hcontextS] at hle
      omega
    intro s hs s' hs' hnoopS hnoopS' hcontexts hsids
    rcases hspan s hs with ⟨hlt, heq⟩ | ⟨hnew, heq⟩ <;>
      rcases hspan s' hs' with ⟨hlt', heq'⟩ | ⟨hnew', heq'⟩ <;>
      rw [heq, heq'] at hcontexts hsids
    · rw [heq] at hnoopS
      rw [heq'] at hnoopS'
      exact hinv.sid_inj s hlt s' hlt' hnoopS hnoopS' hcontexts hsids
    · rw [heq] at hnoopS
      have hbelow := hlt_new s hlt hnoopS hcontexts
      simp only at hsids
      omega
    · rw [heq'] at hnoopS'
      have hbelow := hlt_new s' hlt' hnoopS' hcontexts.symm
      simp only at hsids
      omega
    · rw [hnew, hnew']

theorem Inv.createNoop (hinv : l.Inv) {context : Nat} (hcontext : context < l.contexts.size)
    (hnoop : (l.context context).noop = true) : (l.createNoop context).Inv := by
  have hspan : ∀ s < (l.createNoop context).spans.size,
      s < l.spans.size ∧ (l.createNoop context).span s = l.span s ∨
        (l.createNoop context).span s = ⟨true, context, 0, -1, -1⟩ := by
    intro s hs
    rcases Nat.lt_succ_iff_lt_or_eq.mp hs with hlt | rfl
    · exact Or.inl ⟨hlt, l.span_createNoop_of_lt context hlt⟩
    · exact Or.inr (l.span_createNoop_size context)
  have hold : ∀ s < (l.createNoop context).spans.size,
      ((l.createNoop context).span s).noop = false →
        s < l.spans.size ∧ (l.createNoop context).span s = l.span s := by
    intro s hs hreal
    rcases hspan s hs with h | heq
    · exact h
    · rw [heq] at hreal
      cases hreal
  constructor
  · intro s hs
    rcases hspan s hs with ⟨hlt, heq⟩ | heq
    · rw [heq]
      exact hinv.context_lt s hlt
    · rw [heq]
      exact hcontext
  · intro s hs
    rcases hspan s hs with ⟨hlt, heq⟩ | heq
    · rw [heq]
      exact hinv.noop_eq s hlt
    · rw [heq]
      exact hnoop.symm
  · intro c hc
    rw [openSpans_alloc rfl (fun s hs => l.span_createNoop_of_lt context hs)
      (by rw [span_createNoop_size]) c]
    exact hinv.nspans_eq c hc
  · exact hinv.sid_ge
  · intro s hs hreal
    obtain ⟨hlt, heq⟩ := hold s hs hreal
    rw [heq] at hreal ⊢
    exact hinv.sid_nonneg s hlt hreal
  · intro s hs hreal
    obtain ⟨hlt, heq⟩ := hold s hs hreal
    rw [heq] at hreal ⊢
    exact hinv.sid_le s hlt hreal
  · intro s hs s' hs' hreal hreal'
    obtain ⟨hlt, heq⟩ := hold s hs hreal
    obtain ⟨hlt', heq'⟩ := hold s' hs' hreal'
    rw [heq] at hreal ⊢
    rw [heq'] at hreal' ⊢
    exact hinv.sid_inj s hlt s' hlt' hreal hreal'

/-- Entering and leaving keep the numbers, the owner and the sort of every span, and the numbers and
the sort of every context: only the counter has to be looked at. -/
theorem Inv.of_depths (hinv : l.Inv) {l' : Ledger} (hspans : l'.spans.size = l.spans.size)
    (hcontexts : l'.contexts.size = l.contexts.size)
    (hspan : ∀ s, (l'.span s).noop = (l.span s).noop ∧ (l'.span s).context = (l.span s).context ∧
      (l'.span s).sid = (l.span s).sid)
    (hcontext : ∀ c, (l'.context c).noop = (l.context c).noop ∧
      (l'.context c).sid = (l.context c).sid)
    (hcount : ∀ c < l.contexts.size, (l'.context c).nspans = (l'.openSpans c).card) : l'.Inv where
  context_lt s hs := by
    rw [(hspan s).2.1, hcontexts]
    exact hinv.context_lt s (hspans ▸ hs)
  noop_eq s hs := by
    rw [(hspan s).1, (hspan s).2.1, (hcontext _).1]
    exact hinv.noop_eq s (hspans ▸ hs)
  nspans_eq c hc := hcount c (hcontexts ▸ hc)
  sid_ge c hc := by
    rw [(hcontext c).2]
    exact hinv.sid_ge c (hcontexts ▸ hc)
  sid_nonneg s hs hreal := by
    rw [(hspan s).2.2]
    exact hinv.sid_nonneg s (hspans ▸ hs) ((hspan s).1 ▸ hreal)
  sid_le s hs hreal := by
    rw [(hspan s).2.2, (hspan s).2.1, (hcontext _).2]
    exact hinv.sid_le s (hspans ▸ hs) ((hspan s).1 ▸ hreal)
  sid_inj s hs s' hs' hreal hreal' hsame hsids := by
    rw [(hspan s).2.1, (hspan s').2.1] at hsame
    rw [(hspan s).2.2, (hspan s').2.2] at hsids
    exact hinv.sid_inj s (hspans ▸ hs) s' (hspans ▸ hs') ((hspan s).1 ▸ hreal)
      ((hspan s').1 ▸ hreal') hsame hsids

theorem Inv.start (hinv : l.Inv) {span : Nat} (hspan : span < l.spans.size) :
    (l.start span).Inv := by
  refine hinv.of_depths (l.spans_size_start span) (l.contexts_size_start span) ?_ ?_ ?_
  · intro s
    rw [span_start]
    split <;> exact ⟨rfl, rfl, rfl⟩
  · intro c
    rw [context_start]
    split <;> exact ⟨rfl, rfl⟩
  · intro c hc
    rw [context_start]
    by_cases hopen : (l.span span).depth = 0 ∧ c = (l.span span).context
    · obtain ⟨hdepth, rfl⟩ := hopen
      have hnew : span ∉ l.openSpans (l.span span).context := by
        intro hmem
        have hpos := (mem_openSpans.mp hmem).2.2
        omega
      rw [if_pos ⟨hdepth, rfl⟩, openSpans_start_self hspan hdepth,
        Finset.card_insert_of_notMem hnew, Context.opened, hinv.nspans_eq _ hc]
      push_cast
      rfl
    · rw [if_neg hopen, openSpans_start_of_ne hopen]
      exact hinv.nspans_eq c hc

theorem Inv.stop (hinv : l.Inv) {span : Nat} (hspan : span < l.spans.size) :
    (l.stop span).Inv := by
  refine hinv.of_depths (l.spans_size_stop span) (l.contexts_size_stop span) ?_ ?_ ?_
  · intro s
    rw [span_stop]
    split <;> exact ⟨rfl, rfl, rfl⟩
  · intro c
    rw [context_stop]
    split <;> exact ⟨rfl, rfl⟩
  · intro c hc
    rw [context_stop]
    by_cases hclose : (l.span span).depth = 1 ∧ c = (l.span span).context
    · obtain ⟨hdepth, rfl⟩ := hclose
      have hmem : span ∈ l.openSpans (l.span span).context :=
        mem_openSpans.mpr ⟨hspan, rfl, by omega⟩
      have hpos := Finset.card_pos.mpr ⟨span, hmem⟩
      rw [if_pos ⟨hdepth, rfl⟩, openSpans_stop_self hdepth, Finset.card_erase_of_mem hmem,
        Context.closed, hinv.nspans_eq _ hc]
      simp only
      omega
    · rw [if_neg hclose, openSpans_stop_of_ne hclose]
      exact hinv.nspans_eq c hc

theorem Inv.apply (hinv : l.Inv) {action : Action} (henabled : l.Enabled action) :
    (l.apply action).Inv := by
  cases action with
  | newContext noop => exact hinv.newContext noop
  | create context pid => exact hinv.create pid henabled.1 henabled.2
  | createNoop context => exact hinv.createNoop henabled.1 henabled.2
  | start span => exact hinv.start henabled
  | stop span => exact hinv.stop henabled

theorem Sealed.newContext (hsealed : l.Sealed) (noop : Bool) : (l.newContext noop).Sealed := by
  have hcontext : ∀ c, (l.newContext noop).context c = l.context c ∨
      ((l.newContext noop).context c).spans = [] := by
    intro c
    by_cases hc : c = l.contexts.size
    · exact Or.inr (by rw [hc, context_newContext_size])
    · exact Or.inl (l.contexts.get_alloc_of_ne _ hc)
  have hmem : ∀ c, ∀ s ∈ ((l.newContext noop).context c).spans, s ∈ (l.context c).spans := by
    intro c s hs
    rcases hcontext c with heq | hnil
    · rwa [heq] at hs
    · simp [hnil] at hs
  constructor
  · intro c
    rcases hcontext c with heq | hnil
    · rw [heq]
      exact hsealed.nodup c
    · rw [hnil]
      exact List.nodup_nil
  · exact fun c s hs => hsealed.mem_lt c s (hmem c s hs)
  · exact fun c s hs => hsealed.mem_context c s (hmem c s hs)
  · exact fun c s hs => hsealed.mem_closed c s (hmem c s hs)
  · exact fun c hc => Nat.lt_succ_of_lt (hsealed.archived_lt c hc)
  · exact hsealed.archived_nodup
  · intro c hc
    rw [context_newContext_of_lt l noop (hsealed.archived_lt c hc)]
    exact hsealed.archived_closed c hc
  · intro c hc
    rw [context_newContext_of_lt l noop (hsealed.archived_lt c hc)]
    exact hsealed.archived_real c hc
  · intro c hnoop
    rcases hcontext c with heq | hnil
    · rw [heq] at hnoop ⊢
      exact hsealed.noop_nil c hnoop
    · exact hnil

/-- A new span is in no list yet, and the lists and counters stay as they are. -/
theorem Sealed.of_alloc (hsealed : l.Sealed) {l' : Ledger}
    (hspans : l.spans.size ≤ l'.spans.size) (hcontexts : l'.contexts.size = l.contexts.size)
    (hspan : ∀ s < l.spans.size, l'.span s = l.span s)
    (hcontext : ∀ c, (l'.context c).spans = (l.context c).spans ∧
      (l'.context c).nspans = (l.context c).nspans ∧ (l'.context c).noop = (l.context c).noop)
    (harchived : l'.archived = l.archived) : l'.Sealed where
  nodup c := by
    rw [(hcontext c).1]
    exact hsealed.nodup c
  mem_lt c s hs := by
    rw [(hcontext c).1] at hs
    exact (hsealed.mem_lt c s hs).trans_le hspans
  mem_context c s hs := by
    rw [(hcontext c).1] at hs
    rw [hspan s (hsealed.mem_lt c s hs)]
    exact hsealed.mem_context c s hs
  mem_closed c s hs := by
    rw [(hcontext c).1] at hs
    rw [hspan s (hsealed.mem_lt c s hs)]
    exact hsealed.mem_closed c s hs
  archived_lt c hc := by
    rw [harchived] at hc
    rw [hcontexts]
    exact hsealed.archived_lt c hc
  archived_nodup := by
    rw [harchived]
    exact hsealed.archived_nodup
  archived_closed c hc := by
    rw [harchived] at hc
    rw [(hcontext c).2.1]
    exact hsealed.archived_closed c hc
  archived_real c hc := by
    rw [harchived] at hc
    rw [(hcontext c).2.2]
    exact hsealed.archived_real c hc
  noop_nil c hnoop := by
    rw [(hcontext c).2.2] at hnoop
    rw [(hcontext c).1]
    exact hsealed.noop_nil c hnoop

theorem Sealed.create (hsealed : l.Sealed) (context : Nat) (pid : Int) :
    (l.create context pid).Sealed := by
  refine hsealed.of_alloc (Nat.le_succ _) rfl (fun s hs => l.span_create_of_lt context pid hs) ?_ rfl
  intro c
  rw [context_create]
  split <;> exact ⟨rfl, rfl, rfl⟩

theorem Sealed.createNoop (hsealed : l.Sealed) (context : Nat) : (l.createNoop context).Sealed :=
  hsealed.of_alloc (Nat.le_succ _) rfl (fun _ hs => l.span_createNoop_of_lt context hs)
    (fun _ => ⟨rfl, rfl, rfl⟩) rfl

theorem spans_context_start (span c : Nat) :
    ((l.start span).context c).spans = (l.context c).spans := by
  rw [context_start]
  split <;> rfl

theorem noop_context_start (span c : Nat) :
    ((l.start span).context c).noop = (l.context c).noop := by
  rw [context_start]
  split <;> rfl

theorem noop_context_stop (span c : Nat) :
    ((l.stop span).context c).noop = (l.context c).noop := by
  rw [context_stop]
  split <;> rfl

theorem Sealed.start (hsealed : l.Sealed) {span : Nat} (hfresh : l.Fresh (.start span)) :
    (l.start span).Sealed where
  nodup c := by
    rw [spans_context_start]
    exact hsealed.nodup c
  mem_lt c s hs := by
    rw [spans_context_start] at hs
    rw [spans_size_start]
    exact hsealed.mem_lt c s hs
  mem_context c s hs := by
    rw [spans_context_start] at hs
    have hcontext := hsealed.mem_context c s hs
    rw [span_start]
    split <;> exact hcontext
  mem_closed c s hs := by
    rw [spans_context_start] at hs
    have hclosed := hsealed.mem_closed c s hs
    rw [span_start]
    split
    · next heq =>
      -- a closed span is not entered from depth zero
      subst heq
      have hcontext := hsealed.mem_context c s hs
      have hdepth : (l.span s).depth ≠ 0 := fun h => (hfresh h).1 (hcontext ▸ hs)
      simp only [Span.enter]
      omega
    · exact hclosed
  archived_lt c hc := by
    rw [archived_start] at hc
    rw [contexts_size_start]
    exact hsealed.archived_lt c hc
  archived_nodup := by
    rw [archived_start]
    exact hsealed.archived_nodup
  archived_closed c hc := by
    rw [archived_start] at hc
    rw [context_start]
    split
    · next hopen => exact absurd (hopen.2 ▸ hc) (hfresh hopen.1).2
    · exact hsealed.archived_closed c hc
  archived_real c hc := by
    rw [archived_start] at hc
    rw [noop_context_start]
    exact hsealed.archived_real c hc
  noop_nil c hnoop := by
    rw [noop_context_start] at hnoop
    rw [spans_context_start]
    exact hsealed.noop_nil c hnoop

/-- A segment gets the span that ends, and no other one. -/
theorem mem_spans_stop {span c s : Nat} (hs : s ∈ ((l.stop span).context c).spans) :
    s ∈ (l.context c).spans ∨ s = span ∧ c = (l.span span).context ∧ (l.span span).depth = 1 := by
  rw [context_stop] at hs
  split at hs
  · next hclose =>
    simp only [Context.closed] at hs
    split at hs
    · exact Or.inl hs
    · rcases List.mem_append.mp hs with hs | hs
      · exact Or.inl hs
      · exact Or.inr ⟨List.mem_singleton.mp hs, hclose.2, hclose.1⟩
  · exact Or.inl hs

/-- The context of a span is archived when the span is the last one that ends in it. -/
theorem mem_archived_stop {span c : Nat} (hc : c ∈ (l.stop span).archived) :
    c ∈ l.archived ∨ c = (l.span span).context ∧ (l.span span).depth = 1 ∧
      (l.context c).noop = false ∧ (l.context c).nspans = 1 := by
  rw [archived_stop] at hc
  split at hc
  · next hlast =>
    rcases List.mem_append.mp hc with hc | hc
    · exact Or.inl hc
    · obtain rfl := List.mem_singleton.mp hc
      exact Or.inr ⟨rfl, hlast⟩
  · exact Or.inl hc

theorem Sealed.stop (hsealed : l.Sealed) (hinv : l.Inv) {span : Nat} (hspan : span < l.spans.size) :
    (l.stop span).Sealed := by
  constructor
  · intro c
    rw [context_stop]
    split
    · next hclose =>
      have hnodup := hsealed.nodup c
      simp only [Context.closed]
      split
      · exact hnodup
      · refine List.nodup_append.mpr ⟨hnodup, List.nodup_singleton _, ?_⟩
        -- the span is still entered, so it was not closed before
        rintro s hs _ hs' rfl
        rw [List.mem_singleton.mp hs'] at hs
        have hclosed := hsealed.mem_closed c span hs
        have hdepth := hclose.1
        omega
    · exact hsealed.nodup c
  · intro c s hs
    rw [spans_size_stop]
    rcases mem_spans_stop hs with hs | ⟨rfl, _⟩
    · exact hsealed.mem_lt c s hs
    · exact hspan
  · intro c s hs
    have hcontext : (l.span s).context = c := by
      rcases mem_spans_stop hs with hs | ⟨rfl, hc, _⟩
      · exact hsealed.mem_context c s hs
      · exact hc.symm
    rw [span_stop]
    split <;> exact hcontext
  · intro c s hs
    have hdepth : (l.span s).depth ≤ 0 ∨ s = span ∧ (l.span s).depth = 1 := by
      rcases mem_spans_stop hs with hs | ⟨rfl, _, hdepth⟩
      · exact Or.inl (hsealed.mem_closed c s hs)
      · exact Or.inr ⟨rfl, hdepth⟩
    rw [span_stop]
    split
    · simp only [Span.leave]
      omega
    · next hne =>
      rcases hdepth with hdepth | ⟨heq, _⟩
      · exact hdepth
      · exact absurd heq hne
  · intro c hc
    rw [contexts_size_stop]
    rcases mem_archived_stop hc with hc | ⟨rfl, -⟩
    · exact hsealed.archived_lt c hc
    · exact hinv.context_lt span hspan
  · rw [archived_stop]
    split
    · next hclose =>
      refine List.nodup_append.mpr ⟨hsealed.archived_nodup, List.nodup_singleton _, ?_⟩
      rintro c hc _ hc' rfl
      rw [List.mem_singleton.mp hc'] at hc
      have hzero := hsealed.archived_closed _ hc
      have hone := hclose.2.2
      omega
    · exact hsealed.archived_nodup
  · intro c hc
    rw [context_stop]
    by_cases hclose : (l.span span).depth = 1 ∧ c = (l.span span).context
    · rw [if_pos hclose]
      have hpos := nspans_pos hinv hspan (by omega)
      rw [← hclose.2] at hpos
      simp only [Context.closed]
      rcases mem_archived_stop hc with hc | ⟨-, -, -, hone⟩
      · have hzero := hsealed.archived_closed c hc
        omega
      · omega
    · rw [if_neg hclose]
      rcases mem_archived_stop hc with hc | ⟨heq, hdepth, -⟩
      · exact hsealed.archived_closed c hc
      · exact absurd ⟨hdepth, heq⟩ hclose
  · intro c hc
    rw [noop_context_stop]
    rcases mem_archived_stop hc with hc | ⟨-, -, hreal, -⟩
    · exact hsealed.archived_real c hc
    · exact hreal
  · intro c hnoop
    rw [noop_context_stop] at hnoop
    have hnil := hsealed.noop_nil c hnoop
    rw [context_stop]
    split
    · simp only [Context.closed, hnoop, if_true, hnil]
    · exact hnil

theorem Sealed.apply (hsealed : l.Sealed) (hinv : l.Inv) {action : Action}
    (henabled : l.Enabled action) (hfresh : l.Fresh action) : (l.apply action).Sealed := by
  cases action with
  | newContext noop => exact hsealed.newContext noop
  | create context pid => exact hsealed.create context pid
  | createNoop context => exact hsealed.createNoop context
  | start span => exact hsealed.start hfresh
  | stop span => exact hsealed.stop hinv henabled

/-- A noop span is in no record, and its context is never archived. -/
theorem Fresh.of_noop (hsealed : l.Sealed) {span : Nat}
    (hnoop : (l.context (l.span span).context).noop = true) : l.Fresh (.start span) := by
  intro _
  refine ⟨by simp [hsealed.noop_nil _ hnoop], fun hmem => ?_⟩
  rw [hsealed.archived_real _ hmem] at hnoop
  cases hnoop

theorem Whole.newContext (hwhole : l.Whole) (hinv : l.Inv) (noop : Bool) :
    (l.newContext noop).Whole where
  depth_nonneg := hwhole.depth_nonneg
  recorded s hs hreal hdepth := by
    rw [span_newContext, context_newContext_of_lt l noop (hinv.context_lt s hs)]
    exact hwhole.recorded s hs hreal hdepth
  settled s hs hreal hcount := by
    rw [span_newContext, context_newContext_of_lt l noop (hinv.context_lt s hs)] at hcount
    exact hwhole.settled s hs hreal hcount

/-- Entering a span that somebody is inside. -/
theorem Whole.reused (hwhole : l.Whole) {t : Nat} (hdepth : 0 < (l.span t).depth) :
    (l.start t).Whole := by
  have hspan : ∀ s, ((l.start t).span s).noop = (l.span s).noop ∧
      ((l.start t).span s).context = (l.span s).context ∧
      (l.span s).depth ≤ ((l.start t).span s).depth := by
    intro s
    rw [span_start]
    split
    · exact ⟨rfl, rfl, by simp only [Span.enter]; omega⟩
    · exact ⟨rfl, rfl, le_refl _⟩
  have hcontext : ∀ c, (l.start t).context c = l.context c := by
    intro c
    rw [context_start, if_neg (by omega)]
  constructor
  · intro s hs
    exact (hwhole.depth_nonneg s (l.spans_size_start t ▸ hs)).trans (hspan s).2.2
  · intro s hs hreal hzero
    have hlt : s < l.spans.size := l.spans_size_start t ▸ hs
    have hle := (hspan s).2.2
    have hge := hwhole.depth_nonneg s hlt
    rw [(hspan s).2.1, hcontext]
    exact hwhole.recorded s hlt ((hspan s).1 ▸ hreal) (by omega)
  · intro s hs hreal hcount
    rw [(hspan s).2.1, hcontext] at hcount
    rw [(hspan s).2.1, archived_start]
    exact hwhole.settled s (l.spans_size_start t ▸ hs) ((hspan s).1 ▸ hreal) hcount

/-- A block with a span of its own: the span is open, and so is its context. -/
theorem Whole.of_opened (hwhole : l.Whole) {l' : Ledger} {c : Nat}
    (hsize : l'.spans.size = l.spans.size + 1)
    (hspan : ∀ s < l.spans.size, l'.span s = l.span s)
    (hnew : (l'.span l.spans.size).context = c ∧ (l'.span l.spans.size).depth = 1)
    (hcontext : ∀ c', c' ≠ c → l'.context c' = l.context c')
    (hspans : (l'.context c).spans = (l.context c).spans) (hcount : 0 < (l'.context c).nspans)
    (harchived : l'.archived = l.archived) : l'.Whole := by
  have hrecord : ∀ c', (l'.context c').spans = (l.context c').spans := by
    intro c'
    by_cases heq : c' = c
    · rw [heq, hspans]
    · rw [hcontext c' heq]
  have hcases : ∀ s < l'.spans.size, s < l.spans.size ∧ l'.span s = l.span s ∨ s = l.spans.size := by
    intro s hs
    rcases Nat.lt_succ_iff_lt_or_eq.mp (hsize ▸ hs) with hlt | heq
    · exact Or.inl ⟨hlt, hspan s hlt⟩
    · exact Or.inr heq
  constructor
  · intro s hs
    rcases hcases s hs with ⟨hlt, heq⟩ | rfl
    · rw [heq]
      exact hwhole.depth_nonneg s hlt
    · rw [hnew.2]
      decide
  · intro s hs hreal hzero
    rcases hcases s hs with ⟨hlt, heq⟩ | rfl
    · rw [heq] at hreal hzero ⊢
      rw [hrecord]
      exact hwhole.recorded s hlt hreal hzero
    · rw [hnew.2] at hzero
      cases hzero
  · intro s hs hreal hzero
    rcases hcases s hs with ⟨hlt, heq⟩ | rfl
    · rw [heq] at hreal hzero ⊢
      rw [harchived]
      by_cases hc : (l.span s).context = c
      · rw [hc] at hzero
        omega
      · rw [hcontext _ hc] at hzero
        exact hwhole.settled s hlt hreal hzero
    · rw [hnew.1] at hzero
      omega

theorem Whole.created (hwhole : l.Whole) {c : Nat} (pid : Int)
    (hcount : 0 ≤ (l.context c).nspans) : ((l.create c pid).start l.spans.size).Whole := by
  have hspan : ((l.create c pid).span l.spans.size) = ⟨false, c, 0, (l.context c).sid + 1, pid⟩ :=
    l.span_create_size c pid
  have hself : ((l.create c pid).start l.spans.size).context c = (l.context c).next.opened := by
    rw [context_start, hspan, if_pos ⟨rfl, rfl⟩, context_create, if_pos rfl]
  refine hwhole.of_opened (c := c) (spans_size_start _ _) ?_ ?_ ?_ ?_ ?_ (archived_start _ _)
  · intro s hs
    rw [span_start, if_neg hs.ne, span_create_of_lt l c pid hs]
  · rw [span_start, if_pos rfl, hspan]
    exact ⟨rfl, rfl⟩
  · intro c' hne
    rw [context_start, hspan, if_neg (fun h => hne h.2), context_create, if_neg hne]
  · rw [hself]
    rfl
  · rw [hself]
    simp only [Context.next, Context.opened]
    omega

theorem Whole.createdNoop (hwhole : l.Whole) {c : Nat} (hcount : 0 ≤ (l.context c).nspans) :
    ((l.createNoop c).start l.spans.size).Whole := by
  have hspan : ((l.createNoop c).span l.spans.size) = ⟨true, c, 0, -1, -1⟩ :=
    l.span_createNoop_size c
  have hself : ((l.createNoop c).start l.spans.size).context c = (l.context c).opened := by
    rw [context_start, hspan, if_pos ⟨rfl, rfl⟩]
    rfl
  refine hwhole.of_opened (c := c) (spans_size_start _ _) ?_ ?_ ?_ ?_ ?_ (archived_start _ _)
  · intro s hs
    rw [span_start, if_neg hs.ne, span_createNoop_of_lt l c hs]
  · rw [span_start, if_pos rfl, hspan]
    exact ⟨rfl, rfl⟩
  · intro c' hne
    rw [context_start, hspan, if_neg (fun h => hne h.2)]
    rfl
  · rw [hself]
    rfl
  · rw [hself]
    simp only [Context.opened]
    omega

/-- Leaving a span that somebody is inside: the last one records it, and the last span of a context
archives it. -/
theorem Whole.stop (hwhole : l.Whole) (hinv : l.Inv) {t : Nat} (ht : t < l.spans.size)
    (hdepth : 0 < (l.span t).depth) : (l.stop t).Whole := by
  have hspan : ∀ s, ((l.stop t).span s).noop = (l.span s).noop ∧
      ((l.stop t).span s).context = (l.span s).context := by
    intro s
    rw [span_stop]
    split <;> exact ⟨rfl, rfl⟩
  have hsize := l.spans_size_stop t
  constructor
  · intro s hs
    have hge := hwhole.depth_nonneg s (hsize ▸ hs)
    rw [span_stop]
    split
    · next heq =>
      rw [heq]
      simp only [Span.leave]
      omega
    · exact hge
  · intro s hs hreal hzero
    have hlt : s < l.spans.size := hsize ▸ hs
    rw [(hspan s).1] at hreal
    rw [(hspan s).2, context_stop]
    by_cases heq : s = t
    · subst heq
      rw [span_stop, if_pos rfl] at hzero
      have hone : (l.span s).depth = 1 := by
        simp only [Span.leave] at hzero
        omega
      have hcontext : (l.context (l.span s).context).noop = false := by
        rw [← hinv.noop_eq s hlt, hreal]
      rw [if_pos ⟨hone, rfl⟩]
      simp [Context.closed, hcontext]
    · rw [span_stop, if_neg heq] at hzero
      have hmem := hwhole.recorded s hlt hreal hzero
      split
      · simp only [Context.closed]
        split
        · exact hmem
        · exact List.mem_append_left _ hmem
      · exact hmem
  · intro s hs hreal hzero
    have hlt : s < l.spans.size := hsize ▸ hs
    rw [(hspan s).1] at hreal
    rw [(hspan s).2] at hzero ⊢
    rw [context_stop] at hzero
    rw [archived_stop]
    split at hzero
    · next hclose =>
      have hone : (l.context (l.span t).context).nspans = 1 := by
        rw [← hclose.2]
        simp only [Context.closed] at hzero
        omega
      have hcontext : (l.context (l.span t).context).noop = false := by
        rw [← hclose.2, ← hinv.noop_eq s hlt, hreal]
      rw [if_pos ⟨hclose.1, hcontext, hone⟩, hclose.2]
      simp
    · have hmem := hwhole.settled s hlt hreal hzero
      split
      · exact List.mem_append_left _ hmem
      · exact hmem

theorem nspans_nonneg (hinv : l.Inv) {c : Nat} (hc : c < l.contexts.size) :
    0 ≤ (l.context c).nspans := by
  rw [hinv.nspans_eq c hc]
  exact Int.natCast_nonneg _

namespace Sound

theorem of_empty (hspans : l.spans.size = 0) (hcontexts : l.contexts.size = 0)
    (hnil : ∀ c, (l.context c).spans = []) (hnone : l.archived = []) : l.Sound := by
  have hspan : ∀ s, ¬ s < l.spans.size := fun s => by omega
  have hcontext : ∀ c, ¬ c < l.contexts.size := fun c => by omega
  have hmem : ∀ c s, s ∉ (l.context c).spans := fun c s => by rw [hnil]; exact List.not_mem_nil
  have harchived : ∀ c, c ∉ l.archived := fun c => by rw [hnone]; exact List.not_mem_nil
  refine ⟨?_, ?_, ?_⟩
  · constructor
    · exact fun s hs => absurd hs (hspan s)
    · exact fun s hs => absurd hs (hspan s)
    · exact fun c hc => absurd hc (hcontext c)
    · exact fun c hc => absurd hc (hcontext c)
    · exact fun s hs => absurd hs (hspan s)
    · exact fun s hs => absurd hs (hspan s)
    · exact fun s hs => absurd hs (hspan s)
  · constructor
    · exact fun c => by rw [hnil]; exact List.nodup_nil
    · exact fun c s hs => absurd hs (hmem c s)
    · exact fun c s hs => absurd hs (hmem c s)
    · exact fun c s hs => absurd hs (hmem c s)
    · exact fun c hc => absurd hc (harchived c)
    · rw [hnone]
      exact List.nodup_nil
    · exact fun c hc => absurd hc (harchived c)
    · exact fun c hc => absurd hc (harchived c)
    · exact fun c _ => hnil c
  · constructor
    · exact fun s hs => absurd hs (hspan s)
    · exact fun s hs => absurd hs (hspan s)
    · exact fun s hs => absurd hs (hspan s)

theorem newContext (h : l.Sound) (noop : Bool) : (l.newContext noop).Sound :=
  ⟨h.inv.newContext noop, h.sealed.newContext noop, h.whole.newContext h.inv noop⟩

theorem created (h : l.Sound) {c : Nat} (pid : Int) (hc : c < l.contexts.size)
    (hreal : (l.context c).noop = false) (harchived : c ∉ l.archived) :
    ((l.create c pid).start l.spans.size).Sound := by
  have hcreate := h.inv.create pid hc hreal
  refine ⟨hcreate.start (Nat.lt_succ_self _), (h.sealed.create c pid).start ?_,
    h.whole.created pid (nspans_nonneg h.inv hc)⟩
  intro _
  rw [span_create_size, context_create, if_pos rfl]
  exact ⟨fun hmem => absurd (h.sealed.mem_lt c _ hmem) (Nat.lt_irrefl _), harchived⟩

theorem createdNoop (h : l.Sound) {c : Nat} (hc : c < l.contexts.size)
    (hnoop : (l.context c).noop = true) : ((l.createNoop c).start l.spans.size).Sound := by
  have hcreate := h.inv.createNoop hc hnoop
  refine ⟨hcreate.start (Nat.lt_succ_self _), (h.sealed.createNoop c).start (.of_noop
    (h.sealed.createNoop c) ?_), h.whole.createdNoop (nspans_nonneg h.inv hc)⟩
  rw [span_createNoop_size]
  exact hnoop

theorem reused (h : l.Sound) {t : Nat} (ht : t < l.spans.size) (hdepth : 0 < (l.span t).depth) :
    (l.start t).Sound :=
  ⟨h.inv.start ht, h.sealed.start fun hzero => absurd hzero hdepth.ne', h.whole.reused hdepth⟩

theorem stop (h : l.Sound) {t : Nat} (ht : t < l.spans.size) (hdepth : 0 < (l.span t).depth) :
    (l.stop t).Sound :=
  ⟨h.inv.stop ht, h.sealed.stop h.inv ht, h.whole.stop h.inv ht hdepth⟩

theorem not_archived (h : l.Sound) {t : Nat} (ht : t < l.spans.size)
    (hdepth : 0 < (l.span t).depth) : (l.span t).context ∉ l.archived := by
  intro hmem
  exact absurd (h.sealed.archived_closed _ hmem) (nspans_pos h.inv ht hdepth).ne'

end Sound

end SkyWalking.Ledger
