import SkyWalking.Profile.Counting
import SkyWalking.Proof.Publication

/-!
# Sampling is counted

The number of started profilings is the number of the profilers that have produced a snapshot, of the one
that is about to, and of the refusals. A profiler is refused only when that number has passed the limit,
and is in no slot once `stop_tracing_profile` is through with it.
-/

namespace SkyWalking.ProfileThread

section Log

variable (dumps : List Dump) (profiler : Profiler) (sequence : Nat)

theorem mem_producers_iff :
    profiler ∈ producers dumps ↔ sequences profiler dumps ≠ [] := by
  unfold producers sequences
  rw [List.mem_toFinset, ne_eq, List.filterMap_eq_nil_iff, not_forall]
  constructor
  · intro hmem
    obtain ⟨dump, hdump, hproducer⟩ := List.mem_filterMap.mp hmem
    refine ⟨dump, ?_⟩
    cases dump with
    | built producer number =>
        obtain rfl := Option.some.inj hproducer
        simp [hdump, Dump.sequenceOf]
    | refused producer => cases hproducer
  · rintro ⟨dump, hdump⟩
    rw [Classical.not_imp] at hdump
    refine List.mem_filterMap.mpr ⟨dump, hdump.1, ?_⟩
    cases dump with
    | built producer number =>
        by_cases heq : producer = profiler
        · rw [heq]
          rfl
        · simp [Dump.sequenceOf, heq] at hdump
    | refused producer => simp [Dump.sequenceOf] at hdump

theorem producers_built :
    producers (dumps ++ [.built profiler sequence]) = insert profiler (producers dumps) := by
  unfold producers
  rw [List.filterMap_append, List.toFinset_append]
  ext other
  simp [Dump.producer]

theorem producers_refused : producers (dumps ++ [.refused profiler]) = producers dumps := by
  have hnone : [Dump.refused profiler].filterMap Dump.producer = [] := rfl
  unfold producers
  rw [List.filterMap_append, hnone, List.append_nil]

theorem dismissed_built : dismissed (dumps ++ [.built profiler sequence]) = dismissed dumps := by
  simp [dismissed, Dump.dismissed]

theorem dismissed_refused :
    dismissed (dumps ++ [.refused profiler]) = dismissed dumps ++ [profiler] := by
  simp [dismissed, Dump.dismissed]

theorem sequences_built :
    sequences profiler (dumps ++ [.built profiler sequence]) = sequences profiler dumps ++ [sequence] := by
  simp [sequences, Dump.sequenceOf]

theorem sequences_built_of_ne {other : Profiler} (hne : other ≠ profiler) :
    sequences other (dumps ++ [.built profiler sequence]) = sequences other dumps := by
  simp [sequences, Dump.sequenceOf, hne.symm]

theorem sequences_refused (other : Profiler) :
    sequences other (dumps ++ [.refused profiler]) = sequences other dumps := by
  simp [sequences, Dump.sequenceOf]

theorem snapshots_built :
    snapshots (dumps ++ [.built profiler sequence]) =
      snapshots dumps ++ [(profiler.traceContext, sequence)] := by
  simp [snapshots, Dump.snapshot]

theorem snapshots_refused : snapshots (dumps ++ [.refused profiler]) = snapshots dumps := by
  simp [snapshots, Dump.snapshot]

end Log

variable {maxParallel : Nat} {task : ProfileTask} {s s' : State}

def State.sequence (s : State) (attempt : Nat) : Nat := (s.profilers.get attempt).dumpSequence

/-- One if the next snapshot is the first of its profiler. -/
def State.admitting (s : State) : Nat :=
  match s.loop with
  | .building _ profiler => if s.sequence profiler.attempt = 0 then 1 else 0
  | _ => 0

/-- What a step does to the counters, and what it dumps. -/
inductive Effect (task : ProfileTask) (s s' : State) : List Dump → Prop where
  | quiet :
      s'.slots.totalStartedProfilingCnt = s.slots.totalStartedProfilingCnt →
      s'.admitting = s.admitting → s'.snapshots = s.snapshots →
      (∀ attempt context, s'.Made attempt context →
        s.Made attempt context ∧ s'.sequence attempt = s.sequence attempt ∨
          ¬ s.Made attempt context ∧ s'.sequence attempt = 0) →
      Effect task s s' []
  | accept :
      s'.slots.totalStartedProfilingCnt = s.slots.totalStartedProfilingCnt + 1 →
      s.slots.totalStartedProfilingCnt + 1 ≤ task.maxSamplingCount →
      s.admitting = 0 → s'.admitting = 1 → s'.snapshots = s.snapshots →
      s'.slots.attempts = s.slots.attempts → s'.profilers = s.profilers →
      Effect task s s' []
  | refuse (idx : Nat) (profiler : Profiler) :
      s.loop = .counting idx profiler → s.sequence profiler.attempt = 0 →
      task.maxSamplingCount < s.slots.totalStartedProfilingCnt + 1 →
      s' = { s with
        slots := { s.slots with
          totalStartedProfilingCnt := s.slots.totalStartedProfilingCnt + 1
          stopping := .scanning profiler.traceContext 0 }
        loop := .stopping idx profiler } →
      Effect task s s' [.refused profiler]
  | build (idx : Nat) (profiler : Profiler) :
      s.loop = .building idx profiler → s' = s.buildSnapshot idx profiler →
      Effect task s s' [.built profiler (s.sequence profiler.attempt)]

theorem admitting_of_loop (hplaced : Placed s) (hloop : s'.loop = s.loop)
    (hsequence : ∀ idx profiler, s.TookAt idx profiler →
      s'.sequence profiler.attempt = s.sequence profiler.attempt) : s'.admitting = s.admitting := by
  unfold State.admitting
  rw [hloop]
  cases hat : s.loop with
  | building idx profiler =>
      simp only
      rw [hsequence idx profiler (hplaced.visiting idx profiler (by rw [hat]; rfl))]
  | sleeping | passing | looking | looked | dumping | framing | counting | stopping | ended => rfl

/-- Neither the attempts nor the profilers change, and the profile thread builds no snapshot next. -/
theorem Effect.of_eq (htotal : s'.slots.totalStartedProfilingCnt = s.slots.totalStartedProfilingCnt)
    (hadmitting : s'.admitting = s.admitting) (hsnapshots : s'.snapshots = s.snapshots)
    (hattempts : s'.slots.attempts = s.slots.attempts) (hprofilers : s'.profilers = s.profilers) :
    Effect task s s' [] := by
  refine .quiet htotal hadmitting hsnapshots ?_
  intro attempt context hmade
  refine .inl ⟨(made_of_attempts hattempts attempt context).mp hmade, ?_⟩
  unfold State.sequence
  rw [hprofilers]

theorem total_of_stopStep {t t' : ProfileTaskExecutionContext.State}
    (h : ProfileTaskExecutionContext.Transition maxParallel t .stopStep t') :
    t'.totalStartedProfilingCnt = t.totalStartedProfilingCnt := by
  cases h <;> rfl

theorem total_of_advance {t t' : ProfileTaskExecutionContext.State} {index : Nat}
    (h : Advance t index t') : t'.totalStartedProfilingCnt = t.totalStartedProfilingCnt := by
  cases h <;> rfl

/-- A step of an application thread, with what it makes. -/
theorem Effect.of_app (hplaced : Placed s)
    (htotal : s'.slots.totalStartedProfilingCnt = s.slots.totalStartedProfilingCnt)
    (hloop : s'.loop = s.loop) (hsnapshots : s'.snapshots = s.snapshots)
    (hkept : ∀ idx profiler, s.TookAt idx profiler →
      s'.sequence profiler.attempt = s.sequence profiler.attempt)
    (hmade : ∀ attempt context, s'.Made attempt context →
      s.Made attempt context ∧ s'.sequence attempt = s.sequence attempt ∨
        ¬ s.Made attempt context ∧ s'.sequence attempt = 0) : Effect task s s' [] :=
  .quiet htotal (admitting_of_loop hplaced hloop hkept) hsnapshots hmade

theorem profilers_construct (s : State) (context attempt : Nat) :
    ∃ reference, (s.construct context attempt).profilers =
      s.profilers.set attempt { profileStatus := reference } := by
  unfold State.construct
  split
  · exact ⟨_, rfl⟩
  · exact ⟨_, rfl⟩

/-- The constructor of `ThreadProfiler` makes a profiler that has built no snapshot. -/
theorem Effect.construct (hplaced : Placed s) {context attempt : Nat}
    {slots : ProfileTaskExecutionContext.State}
    (hslots : ProfileTaskExecutionContext.Step maxParallel task s.slots (.attemptStep attempt) slots)
    (hfirst : { s with slots := slots }.progress attempt = some (.scanning 0)) :
    Effect task s ({ s with slots := slots }.construct context attempt) [] := by
  have hadvance := advance_of_transition (ProfileTaskExecutionContext.transition_of_step hslots)
  have hadvanced : Advanced attempt s { s with slots := slots } := advanced_of_advance hadvance
  obtain ⟨count, hchecked⟩ := hadvanced.first hfirst
  obtain ⟨reference, hprofilers⟩ := profilers_construct { s with slots := slots } context attempt
  have hnot : ∀ other, ¬ s.Made attempt other := by
    rintro other ⟨-, ⟨idx, hscanning⟩ | ⟨idx, htook⟩⟩
    · rw [hchecked] at hscanning
      cases hscanning
    · rw [hchecked] at htook
      cases htook
  have hsame : ∀ other, other ≠ attempt →
      ({ s with slots := slots }.construct context attempt).sequence other = s.sequence other := by
    intro other hne
    unfold State.sequence
    rw [hprofilers, Store.get_set_of_ne _ _ hne]
  refine .of_app hplaced ?_ (loop_construct _ _ _) ?_ ?_ ?_
  · rw [slots_construct]
    exact total_of_advance hadvance
  · unfold State.construct
    split <;> rfl
  · intro idx profiler htook
    refine hsame _ ?_
    intro heq
    have hmade := htook.took.made
    rw [heq] at hmade
    exact hnot _ hmade
  · intro other context' hmade
    rw [made_of_attempts (s := { s with slots := slots }) (by rw [slots_construct])] at hmade
    by_cases heq : other = attempt
    · subst heq
      refine .inr ⟨hnot _, ?_⟩
      unfold State.sequence
      rw [hprofilers, Store.get_set_self]
    · exact .inl ⟨hadvanced.made_of hmade (.inr heq), hsame _ heq⟩

theorem effect_of_transition (hplaced : Placed s) {action : Action}
    (htransition : Transition maxParallel task s action s') :
    Effect task s s' (s.dump task action) := by
  have hcontexts : s'.slots = s.slots → s'.loop = s.loop → s'.snapshots = s.snapshots →
      s'.profilers = s.profilers → Effect task s s' [] := by
    intro hslots hloop hsnapshots hprofilers
    refine .of_eq (by rw [hslots]) ?_ hsnapshots (by rw [hslots]) hprofilers
    refine admitting_of_loop hplaced hloop ?_
    intro idx profiler _
    unfold State.sequence
    rw [hprofilers]
  cases htransition with
  | getContext | assignNone | reuse | settleTook | settleNone | recheckTook | recheckNone | update
  | startSpan | stopSpan | endThread | stopProfiling => exact hcontexts rfl rfl rfl rfl
  | addProfiling context op inherits assigns slots hready hstatus hslots =>
      cases hslots with
      | call =>
          refine .of_app hplaced rfl rfl rfl (fun _ _ _ => rfl) ?_
          intro attempt other hmade
          exact .inl ⟨made_of_append rfl hmade, rfl⟩
  | attempt context attempt assigns slots hcall hslots hother =>
      have hadvance := advance_of_transition (ProfileTaskExecutionContext.transition_of_step hslots)
      have hadvanced : Advanced attempt s { s with slots := slots } := advanced_of_advance hadvance
      refine .of_app hplaced (total_of_advance hadvance) rfl rfl (fun _ _ _ => rfl) ?_
      intro attempt' other hmade
      exact .inl ⟨hadvanced.made_of hmade (.inl hother), rfl⟩
  | construct context attempt assigns slots hcall hslots hfirst =>
      exact .construct hplaced hslots hfirst
  | finish elapsed hloop | beginPass elapsed hloop | endPass elapsed idx hloop
  | skip elapsed idx hloop | look elapsed idx profiler hloop | crash idx profiler hloop
  | wait idx profiler hloop | see elapsed idx profiler hloop | leave elapsed idx profiler hloop
  | dump elapsed idx profiler hloop | alive elapsed idx profiler hloop
  | frame elapsed idx profiler hloop | stopped elapsed idx profiler hloop
  | stopCrash elapsed idx profiler stopped hloop | start idx reference profiler hloop
  | stop elapsed idx reference profiler stopped hloop =>
      have hdump : ∀ elapsed, s.dump task (.profile elapsed) = [] := by
        intro elapsed
        simp only [State.dump, hloop]
      rw [hdump]
      refine .of_eq rfl ?_ rfl rfl rfl
      simp only [State.admitting, hloop, State.die]
  | fail elapsed idx profiler hloop =>
      have hdump : s.dump task (.profile elapsed) = [] := by
        obtain hloop | hloop := hloop <;> simp only [State.dump, hloop]
      rw [hdump]
      refine .of_eq rfl ?_ rfl rfl rfl
      obtain hloop | hloop := hloop <;> simp only [State.admitting, hloop]
  | accept elapsed idx profiler hloop hfirst hlimit =>
      have hnot : s.refusesDump task profiler = false := by
        simp only [State.refusesDump, hfirst, true_and, decide_eq_false_iff_not]
        omega
      have hdump : s.dump task (.profile elapsed) = [] := by
        simp [State.dump, hloop, hnot]
      rw [hdump]
      refine .accept rfl hlimit ?_ ?_ rfl rfl rfl
      · simp only [State.admitting, hloop]
      · simp [State.admitting, State.sequence, hfirst]
  | refuse elapsed idx profiler hloop hfirst hlimit =>
      have hrefuses : s.refusesDump task profiler = true := by
        simp only [State.refusesDump, hfirst, true_and, decide_eq_true_eq]
        omega
      have hdump : s.dump task (.profile elapsed) = [.refused profiler] := by
        simp [State.dump, hloop, hrefuses]
      rw [hdump]
      exact .refuse idx profiler hloop hfirst hlimit rfl
  | again elapsed idx profiler hloop hagain =>
      have hnot : s.refusesDump task profiler = false := by
        simp [State.refusesDump, hagain]
      have hdump : s.dump task (.profile elapsed) = [] := by
        simp [State.dump, hloop, hnot]
      rw [hdump]
      refine .of_eq rfl ?_ rfl rfl rfl
      simp [State.admitting, State.sequence, hloop, hagain]
  | build elapsed idx profiler hloop =>
      have hdump : s.dump task (.profile elapsed) = [.built profiler (s.sequence profiler.attempt)] := by
        simp only [State.dump, hloop, State.sequence]
      rw [hdump]
      exact .build idx profiler hloop rfl
  | search elapsed idx profiler slots hloop hsearching hslots =>
      have hdump : s.dump task (.profile elapsed) = [] := by simp only [State.dump, hloop]
      rw [hdump]
      exact .of_eq (total_of_stopStep hslots) rfl rfl (attempts_of_stopStep hslots) rfl

structure Counted (task : ProfileTask) (s : State) (dumps : List Dump) : Prop where
  numbered : ∀ profiler, s.Made profiler.attempt profiler.traceContext →
    sequences profiler dumps = List.range (s.sequence profiler.attempt)
  taken : ∀ profiler ∈ producers dumps, ∃ idx, s.TookAt idx profiler
  started : s.slots.totalStartedProfilingCnt =
    ((producers dumps).card + s.admitting + (dismissed dumps).length : Nat)
  limited : (producers dumps).card + s.admitting ≤ task.maxSamplingCount.toNat
  exceeded : dismissed dumps ≠ [] → task.maxSamplingCount < s.slots.totalStartedProfilingCnt
  snapshots : s.snapshots.map (fun snapshot => (snapshot.traceContext, snapshot.sequence)) =
    ProfileThread.snapshots dumps

theorem Counted.init (maxParallel : Nat) : Counted task (State.init maxParallel) [] := by
  refine ⟨?_, fun _ h => (by cases h), rfl, Nat.zero_le _, fun h => absurd rfl h, rfl⟩
  intro profiler hmade
  cases hmade.1

/-- A profiler that has built no snapshot is not among the producers. -/
theorem Counted.mem_producers (h : Counted task s dumps) {profiler : Profiler}
    (hmade : s.Made profiler.attempt profiler.traceContext) :
    profiler ∈ producers dumps ↔ s.sequence profiler.attempt ≠ 0 := by
  rw [mem_producers_iff, h.numbered profiler hmade, ne_eq, List.range_eq_nil]

section Step

variable {dumps new : List Dump} (h : Counted task s dumps) (hkept : Kept s s')

include h hkept

theorem Counted.taken_of (profiler : Profiler) (hmem : profiler ∈ producers dumps) :
    ∃ idx, s'.TookAt idx profiler := by
  obtain ⟨idx, htook⟩ := h.taken profiler hmem
  exact ⟨idx, hkept.tookAt idx profiler htook⟩

theorem Counted.quiet
    (htotal : s'.slots.totalStartedProfilingCnt = s.slots.totalStartedProfilingCnt)
    (hadmitting : s'.admitting = s.admitting) (hsnapshots : s'.snapshots = s.snapshots)
    (hmade : ∀ attempt context, s'.Made attempt context →
      s.Made attempt context ∧ s'.sequence attempt = s.sequence attempt ∨
        ¬ s.Made attempt context ∧ s'.sequence attempt = 0) : Counted task s' dumps := by
  refine ⟨?_, h.taken_of hkept, ?_, ?_, ?_, ?_⟩
  · intro profiler hnew
    obtain ⟨hold, hsequence⟩ | ⟨hnot, hzero⟩ := hmade _ _ hnew
    · rw [hsequence]
      exact h.numbered profiler hold
    · -- what was not made has built nothing
      have hproducer : profiler ∉ producers dumps := by
        intro hmem
        obtain ⟨idx, htook⟩ := h.taken profiler hmem
        exact hnot htook.took.made
      rw [mem_producers_iff, not_not] at hproducer
      rw [hproducer, hzero]
      rfl
  · rw [htotal, hadmitting]
    exact h.started
  · rw [hadmitting]
    exact h.limited
  · rw [htotal]
    exact h.exceeded
  · rw [hsnapshots]
    exact h.snapshots

theorem Counted.accept
    (htotal : s'.slots.totalStartedProfilingCnt = s.slots.totalStartedProfilingCnt + 1)
    (hlimit : s.slots.totalStartedProfilingCnt + 1 ≤ task.maxSamplingCount)
    (hbefore : s.admitting = 0) (hafter : s'.admitting = 1) (hsnapshots : s'.snapshots = s.snapshots)
    (hattempts : s'.slots.attempts = s.slots.attempts) (hprofilers : s'.profilers = s.profilers) :
    Counted task s' dumps := by
  have hstarted := h.started
  rw [hbefore] at hstarted
  refine ⟨?_, h.taken_of hkept, ?_, ?_, ?_, ?_⟩
  · intro profiler hmade
    rw [made_of_attempts hattempts] at hmade
    unfold State.sequence
    rw [hprofilers]
    exact h.numbered profiler hmade
  · rw [htotal, hafter]
    omega
  · rw [hafter]
    omega
  · intro hdismissed
    have := h.exceeded hdismissed
    omega
  · rw [hsnapshots]
    exact h.snapshots

theorem Counted.refuse {idx : Nat} {profiler : Profiler} (hloop : s.loop = .counting idx profiler)
    (hlimit : task.maxSamplingCount < s.slots.totalStartedProfilingCnt + 1)
    (hnext : s' = { s with
      slots := { s.slots with
        totalStartedProfilingCnt := s.slots.totalStartedProfilingCnt + 1
        stopping := .scanning profiler.traceContext 0 }
      loop := .stopping idx profiler }) :
    Counted task s' (dumps ++ [.refused profiler]) := by
  have hstarted := h.started
  have hadmitting : s.admitting = 0 := by simp only [State.admitting, hloop]
  have htaken := h.taken_of hkept
  have hlimited := h.limited
  rw [hadmitting] at hstarted hlimited
  subst hnext
  refine ⟨?_, ?_, ?_, ?_, ?_, ?_⟩
  · intro other hmade
    rw [sequences_refused]
    exact h.numbered other hmade
  · rw [producers_refused]
    exact htaken
  · rw [producers_refused, dismissed_refused, List.length_append]
    simp only [State.admitting, List.length_singleton]
    omega
  · rw [producers_refused]
    exact hlimited
  · intro _
    exact hlimit
  · rw [snapshots_refused]
    exact h.snapshots

theorem Counted.build (hplaced : Placed s) {idx : Nat} {profiler : Profiler}
    (hloop : s.loop = .building idx profiler) (hnext : s' = s.buildSnapshot idx profiler) :
    Counted task s' (dumps ++ [.built profiler (s.sequence profiler.attempt)]) := by
  have htook := hplaced.visiting idx profiler (by rw [hloop]; rfl)
  have hproducer := h.mem_producers htook.took.made
  have htaken := h.taken_of hkept
  have htook' := hkept.tookAt idx profiler htook
  -- the first snapshot turns the one that is admitted into one more producer
  have hcard : (insert profiler (producers dumps)).card = (producers dumps).card + s.admitting := by
    simp only [State.admitting, hloop]
    split
    · next hzero => rw [Finset.card_insert_of_notMem (by rw [hproducer, not_not]; exact hzero)]
    · next hmore => rw [Finset.insert_eq_self.mpr (hproducer.mpr hmore), Nat.add_zero]
  have hstarted := h.started
  have hlimited := h.limited
  rw [← hcard] at hstarted hlimited
  subst hnext
  have hadmitting : (s.buildSnapshot idx profiler).admitting = 0 := rfl
  refine ⟨?_, ?_, ?_, ?_, ?_, ?_⟩
  · intro other hnew
    have hmade : s.Made other.attempt other.traceContext := (made_of_attempts rfl _ _).mp hnew
    unfold State.sequence State.buildSnapshot
    by_cases heq : other = profiler
    · subst heq
      rw [sequences_built, h.numbered other hmade, Store.get_modify_self, List.range_succ]
      rfl
    · have hne : other.attempt ≠ profiler.attempt := by
        intro hattempt
        have howner := hmade.1
        rw [hattempt, htook.1] at howner
        obtain ⟨attempt, context⟩ := other
        obtain rfl := hattempt
        obtain rfl := Option.some.inj howner
        exact heq rfl
      rw [sequences_built_of_ne _ _ _ heq, Store.get_modify_of_ne _ _ hne]
      exact h.numbered other hmade
  · intro other hmem
    rw [producers_built, Finset.mem_insert] at hmem
    obtain rfl | hold := hmem
    · exact ⟨idx, htook'⟩
    · exact htaken other hold
  · rw [producers_built, dismissed_built, hadmitting]
    exact hstarted
  · rw [producers_built, hadmitting]
    exact hlimited
  · rw [dismissed_built]
    exact h.exceeded
  · rw [snapshots_built, ← h.snapshots]
    simp only [State.buildSnapshot, List.map_append, List.map_singleton, State.sequence]

theorem Counted.effect (hplaced : Placed s) (heffect : Effect task s s' new) :
    Counted task s' (dumps ++ new) := by
  cases heffect with
  | quiet htotal hadmitting hsnapshots hmade =>
      rw [List.append_nil]
      exact h.quiet hkept htotal hadmitting hsnapshots hmade
  | accept htotal hlimit hbefore hafter hsnapshots hattempts hprofilers =>
      rw [List.append_nil]
      exact h.accept hkept htotal hlimit hbefore hafter hsnapshots hattempts hprofilers
  | refuse idx profiler hloop hfirst hlimit hnext => exact h.refuse hkept hloop hlimit hnext
  | build idx profiler hloop hnext => exact h.build hkept hplaced hloop hnext

end Step

/-- `stop_tracing_profile` is on its way to the slot. -/
def State.Clearing (s : State) (idx : Nat) (profiler : Profiler) : Prop :=
  s.loop = .stopping idx profiler ∧
    ((∃ position ≤ idx, s.slots.stopping = .scanning profiler.traceContext position) ∨
      s.slots.stopping = .found idx profiler)

/-- The profile thread is through with the profiler, but for emptying its slot. -/
structure Dismissed (s : State) (profiler : Profiler) : Prop where
  took : ∃ idx, s.TookAt idx profiler
  visiting : ∀ idx, s.loop.visiting = some (idx, profiler) → s.loop = .stopping idx profiler
  holds : ∀ idx, s.Holds idx profiler → s.Clearing idx profiler

/-- The steps that `stop_tracing_profile` takes at most until it has emptied the slot. -/
def State.remaining (s : State) (idx : Nat) : Nat :=
  match s.slots.stopping with
  | .scanning _ position => idx - position + 2
  | .found _ _ => 1
  | .idle | .cleared _ | .stopped => 0

theorem tookAt_unique {idx idx' : Nat} {profiler : Profiler} (htook : s.TookAt idx profiler)
    (htook' : s.TookAt idx' profiler) : idx = idx' := by
  have hprogress := htook.2.symm.trans htook'.2
  exact ProfileTaskExecutionContext.Progress.took.inj (Option.some.inj hprogress)

/-- A profiler that was in a slot is not put into another one. -/
theorem Kept.holds_of_took (hkept : Kept s s') {position idx : Nat} {profiler : Profiler}
    (htook : s.TookAt position profiler) (hholds : s'.Holds idx profiler) : s.Holds idx profiler := by
  obtain hold | ⟨-, other, hscanning⟩ := hkept.holds idx profiler hholds
  · exact hold
  · rw [htook.2] at hscanning
    cases hscanning

section Dismissed

variable {profiler : Profiler}

theorem Dismissed.not_holds (h : Dismissed s profiler) (hnot : ∀ idx, ¬ s.Clearing idx profiler)
    (idx : Nat) : ¬ s.Holds idx profiler :=
  fun hholds => hnot idx (h.holds idx hholds)

/-- The search meets no other profiler of the context, so it ends at the slot. -/
theorem clearing_of_search {own : Nat → Nat} (hlinked : Linked own s) (hplaced : Placed s)
    {slots : ProfileTaskExecutionContext.State} {idx : Nat}
    (hslots : ProfileTaskExecutionContext.Transition maxParallel s.slots .stopStep slots)
    (hclearing : s.Clearing idx profiler) (hholds : s.Holds idx profiler)
    (hholds' : State.Holds { s with slots := slots } idx profiler) :
    State.Clearing { s with slots := slots } idx profiler ∧
      State.remaining { s with slots := slots } idx < s.remaining idx := by
  obtain ⟨hloop, ⟨position, hle, hscanning⟩ | hfound⟩ := hclearing
  · cases hslots with
    | advance traceContext place hplace hother =>
        obtain ⟨rfl, rfl⟩ :=
          ProfileTaskExecutionContext.Stopping.scanning.inj (hscanning.symm.trans hplace)
        have hne : position ≠ idx := by
          rintro rfl
          exact hother profiler hholds rfl
        refine ⟨⟨hloop, .inl ⟨position + 1, by omega, rfl⟩⟩, ?_⟩
        simp only [State.remaining, hscanning]
        omega
    | miss traceContext place hplace hslot =>
        obtain ⟨rfl, rfl⟩ :=
          ProfileTaskExecutionContext.Stopping.scanning.inj (hscanning.symm.trans hplace)
        have hlt := (List.getElem?_eq_some_iff.mp hholds).1
        have hge := List.getElem?_eq_none_iff.mp hslot
        omega
    | find traceContext place found hplace hslot hcontext =>
        obtain ⟨rfl, rfl⟩ :=
          ProfileTaskExecutionContext.Stopping.scanning.inj (hscanning.symm.trans hplace)
        have htook := hplaced.holds position found hslot
        have htook' := hplaced.holds idx profiler hholds
        have hattempt := hlinked.once _ _ _ htook.took (hcontext ▸ htook'.took)
        obtain ⟨attempt, context⟩ := found
        obtain rfl : attempt = profiler.attempt := hattempt
        obtain rfl : context = profiler.traceContext := hcontext
        obtain rfl := tookAt_unique htook htook'
        refine ⟨⟨hloop, .inr rfl⟩, ?_⟩
        simp only [State.remaining, hscanning]
        omega
    | clear place found hplace | stop found hplace | lower hplace =>
        rw [hscanning] at hplace
        cases hplace
  · cases hslots with
    | clear place found hplace =>
        obtain ⟨rfl, rfl⟩ :=
          ProfileTaskExecutionContext.Stopping.found.inj (hfound.symm.trans hplace)
        have hlt := (List.getElem?_eq_some_iff.mp hholds).1
        unfold State.Holds at hholds'
        rw [List.getElem?_set_self hlt] at hholds'
        cases Option.some.inj hholds'
    | advance traceContext place hplace | miss traceContext place hplace
    | find traceContext place found hplace | stop found hplace | lower hplace =>
        rw [hfound] at hplace
        cases hplace

/-- A slot that still holds the profiler held it before, and a step of the profile thread has come closer
to emptying it. -/
def Nearer (s s' : State) (profiler : Profiler) (action : Action) : Prop :=
  ∀ idx, s'.Holds idx profiler → s.Holds idx profiler ∧
    s'.remaining idx + (if action.isProfile then 1 else 0) ≤ s.remaining idx

theorem Dismissed.transition {own : Nat → Nat} (h : Dismissed s profiler) (hlinked : Linked own s)
    (hplaced : Placed s) {action : Action} (htransition : Transition maxParallel task s action s') :
    Dismissed s' profiler ∧ Nearer s s' profiler action := by
  have hkept := Kept.transition hlinked htransition
  obtain ⟨place, htook⟩ := h.took
  have hbefore : ∀ idx, s'.Holds idx profiler → s.Holds idx profiler := fun idx hholds =>
    hkept.holds_of_took htook hholds
  have htook' : ∃ idx, s'.TookAt idx profiler := ⟨place, hkept.tookAt place profiler htook⟩
  have happ : s'.slots.stopping = s.slots.stopping → s'.loop = s.loop → action.isProfile = false →
      Dismissed s' profiler ∧ Nearer s s' profiler action := by
    intro hstopping hloop haction
    refine ⟨⟨htook', ?_, ?_⟩, ?_⟩
    · intro idx hvisiting
      rw [hloop] at hvisiting ⊢
      exact h.visiting idx hvisiting
    · intro idx hholds
      unfold State.Clearing
      rw [hstopping, hloop]
      exact h.holds idx (hbefore idx hholds)
    · intro idx hholds
      refine ⟨hbefore idx hholds, ?_⟩
      simp only [State.remaining, hstopping, haction]
      exact le_rfl
  -- the profile thread is not emptying the slot, so it is empty
  have hgone : (∀ idx, ¬ s.Clearing idx profiler) →
      (∀ idx, s'.loop.visiting = some (idx, profiler) → s'.loop = .stopping idx profiler) →
      Dismissed s' profiler ∧ Nearer s s' profiler action := by
    intro hnot hvisiting
    refine ⟨⟨htook', hvisiting, ?_⟩, ?_⟩
    · intro idx hholds
      exact absurd (hbefore idx hholds) (h.not_holds hnot idx)
    · intro idx hholds
      exact absurd (hbefore idx hholds) (h.not_holds hnot idx)
  have hother : (∀ idx, s.loop ≠ .stopping idx profiler) → ∀ idx, ¬ s.Clearing idx profiler :=
    fun hloop idx hclearing => hloop idx hclearing.1
  have hstopping : (∀ position, s.slots.stopping ≠ .scanning profiler.traceContext position) →
      (∀ idx, s.slots.stopping ≠ .found idx profiler) → ∀ idx, ¬ s.Clearing idx profiler := by
    rintro hscanning hfound idx ⟨-, ⟨position, -, hposition⟩ | hidx⟩
    · exact hscanning position hposition
    · exact hfound idx hidx
  cases htransition with
  | attempt context attempt assigns slots hcall hslots => exact happ (stopping_of_step hslots) rfl rfl
  | construct context attempt assigns slots hcall hslots =>
      refine happ ?_ (loop_construct _ _ _) rfl
      rw [slots_construct]
      exact stopping_of_step hslots
  | addProfiling context op inherits assigns slots hready hstatus hslots =>
      cases hslots with
      | call => exact happ rfl rfl rfl
  | getContext | assignNone | reuse | settleTook | settleNone | recheckTook | recheckNone | update
  | startSpan | stopSpan | endThread | stopProfiling => exact happ rfl rfl rfl
  | finish elapsed hloop | beginPass elapsed hloop | endPass elapsed idx hloop | skip elapsed idx hloop
  | start idx reference other hloop | crash idx other hloop | wait idx other hloop
  | leave elapsed idx other hloop | build elapsed idx other hloop =>
      refine hgone (hother ?_) fun _ hvisiting => by cases hvisiting
      intro idx
      rw [hloop]
      exact Loop.noConfusion
  | look elapsed idx other hloop hslot =>
      have hnot := h.not_holds (hother fun idx => by rw [hloop]; exact Loop.noConfusion)
      refine hgone (hother fun idx => by rw [hloop]; exact Loop.noConfusion) ?_
      intro idx' hvisiting
      obtain ⟨rfl, rfl⟩ := Prod.mk.inj (Option.some.inj hvisiting)
      exact absurd hslot (hnot idx)
  | see elapsed idx other hloop | dump elapsed idx other hloop | alive elapsed idx other hloop
  | frame elapsed idx other hloop | accept elapsed idx other hloop | again elapsed idx other hloop =>
      refine hgone (hother fun idx => by rw [hloop]; exact Loop.noConfusion) ?_
      intro idx' hvisiting
      have hstopped := h.visiting idx' (by rw [hloop]; exact hvisiting)
      rw [hloop] at hstopped
      cases hstopped
  | fail elapsed idx other hloop =>
      refine hgone (hother ?_) ?_
      · intro idx
        obtain hloop | hloop := hloop <;> rw [hloop] <;> exact Loop.noConfusion
      · intro idx' hvisiting
        obtain ⟨rfl, rfl⟩ := Prod.mk.inj (Option.some.inj hvisiting)
        rfl
  | refuse elapsed idx other hloop =>
      refine hgone (hother fun idx => by rw [hloop]; exact Loop.noConfusion) ?_
      intro idx' hvisiting
      obtain ⟨rfl, rfl⟩ := Prod.mk.inj (Option.some.inj hvisiting)
      rfl
  | stopped elapsed idx other hloop hidle =>
      refine hgone (hstopping ?_ ?_) fun _ hvisiting => by cases hvisiting
      · intro position
        rw [hidle]
        exact ProfileTaskExecutionContext.Stopping.noConfusion
      · intro position
        rw [hidle]
        exact ProfileTaskExecutionContext.Stopping.noConfusion
  | stop elapsed idx reference other stopped hloop hcleared =>
      refine hgone (hstopping ?_ ?_) h.visiting
      · intro position
        rw [hcleared]
        exact ProfileTaskExecutionContext.Stopping.noConfusion
      · intro position
        rw [hcleared]
        exact ProfileTaskExecutionContext.Stopping.noConfusion
  | stopCrash elapsed idx other stopped hloop hcleared =>
      refine hgone (hstopping ?_ ?_) fun _ hvisiting => by cases hvisiting
      · intro position
        rw [hcleared]
        exact ProfileTaskExecutionContext.Stopping.noConfusion
      · intro position
        rw [hcleared]
        exact ProfileTaskExecutionContext.Stopping.noConfusion
  | search elapsed idx other slots hloop hsearching hslots =>
      have hcloser : ∀ idx, State.Holds { s with slots := slots } idx profiler →
          State.Clearing { s with slots := slots } idx profiler ∧
            State.remaining { s with slots := slots } idx < s.remaining idx := by
        intro idx hholds
        have hold := hbefore idx hholds
        exact clearing_of_search hlinked hplaced hslots (h.holds idx hold) hold hholds
      refine ⟨⟨htook', h.visiting, fun idx hholds => (hcloser idx hholds).1⟩, ?_⟩
      intro idx hholds
      exact ⟨hbefore idx hholds, (hcloser idx hholds).2⟩

end Dismissed

theorem dismissed_of_refuse (hplaced : Placed s) (hkept : Kept s s') {idx : Nat} {profiler : Profiler}
    (hloop : s.loop = .counting idx profiler)
    (hnext : s' = { s with
      slots := { s.slots with
        totalStartedProfilingCnt := s.slots.totalStartedProfilingCnt + 1
        stopping := .scanning profiler.traceContext 0 }
      loop := .stopping idx profiler }) : Dismissed s' profiler := by
  have htook := hplaced.visiting idx profiler (by rw [hloop]; rfl)
  have htook' := hkept.tookAt idx profiler htook
  subst hnext
  refine ⟨⟨idx, htook'⟩, ?_, ?_⟩
  · intro place hvisiting
    obtain ⟨rfl, -⟩ := Prod.mk.inj (Option.some.inj hvisiting)
    rfl
  · intro place hholds
    obtain rfl := tookAt_unique htook (hplaced.holds place profiler hholds)
    exact ⟨rfl, .inl ⟨0, Nat.zero_le _, rfl⟩⟩

/-- What was refused has produced nothing, and will not. -/
def Refused (s : State) (dumps : List Dump) : Prop :=
  ∀ profiler ∈ dismissed dumps, Dismissed s profiler ∧ profiler ∉ producers dumps

theorem Refused.step {own : Nat → Nat} {dumps : List Dump} (h : Refused s dumps)
    (hcounted : Counted task s dumps) (hlinked : Linked own s) (hplaced : Placed s) {action : Action}
    (htransition : Transition maxParallel task s action s') :
    Refused s' (dumps ++ s.dump task action) := by
  have hkept := Kept.transition hlinked htransition
  have hold : ∀ profiler ∈ dismissed dumps, Dismissed s' profiler ∧ profiler ∉ producers dumps := by
    intro profiler hmem
    obtain ⟨hdismissed, hnot⟩ := h profiler hmem
    exact ⟨(hdismissed.transition hlinked hplaced htransition).1, hnot⟩
  have heffect := effect_of_transition hplaced htransition
  generalize s.dump task action = new at heffect
  cases heffect with
  | quiet | accept =>
      rw [List.append_nil]
      exact hold
  | refuse idx profiler hloop hfirst hlimit hnext =>
      have htook := hplaced.visiting idx profiler (by rw [hloop]; rfl)
      intro other hmem
      rw [dismissed_refused, List.mem_append, List.mem_singleton] at hmem
      rw [producers_refused]
      obtain hmem | rfl := hmem
      · exact hold other hmem
      · refine ⟨dismissed_of_refuse hplaced hkept hloop hnext, ?_⟩
        rw [hcounted.mem_producers htook.took.made, not_not]
        exact hfirst
  | build idx profiler hloop hnext =>
      intro other hmem
      rw [dismissed_built] at hmem
      rw [producers_built, Finset.mem_insert, not_or]
      refine ⟨(hold other hmem).1, ?_, (hold other hmem).2⟩
      rintro rfl
      have hstopping := (h other hmem).1.visiting idx (by rw [hloop]; rfl)
      rw [hloop] at hstopping
      cases hstopping

theorem total_le_of_effect {dumps : List Dump} (heffect : Effect task s s' dumps) :
    s.slots.totalStartedProfilingCnt ≤ s'.slots.totalStartedProfilingCnt := by
  cases heffect with
  | quiet htotal => exact htotal.ge
  | accept htotal => omega
  | refuse idx profiler hloop hfirst hlimit hnext =>
      subst hnext
      exact Int.le_add_one le_rfl
  | build idx profiler hloop hnext =>
      subst hnext
      exact le_rfl

theorem unadmitted_of_progress {attempt : Nat} (hprogress : s'.progress attempt = s.progress attempt)
    (h : s.Unadmitted attempt) : s'.Unadmitted attempt := by
  unfold State.Unadmitted
  rw [hprogress]
  exact h

theorem unadmitted_of_append {context : Nat} {op : String} {attempt : Nat}
    (hattempts : s'.slots.attempts = s.slots.attempts ++ [⟨context, op, .called⟩])
    (h : s.Unadmitted attempt) : s'.Unadmitted attempt := by
  have hprogress := progress_append hattempts attempt
  split at hprogress
  · exact .inr (.inl hprogress)
  · exact unadmitted_of_progress hprogress h

/-- The check of the number of started profilings refuses the attempt. -/
theorem unadmitted_of_attemptStep {slots : ProfileTaskExecutionContext.State} {attempt : Nat}
    (hexceeded : task.maxSamplingCount < s.slots.totalStartedProfilingCnt)
    (hslots : ProfileTaskExecutionContext.Step maxParallel task s.slots (.attemptStep attempt) slots)
    (h : s.Unadmitted attempt) : State.Unadmitted { s with slots := slots } attempt := by
  obtain ⟨entry, hentry, hstep⟩ := attempt_of_step hslots
  have hself : s.progress attempt = some entry.progress := by
    unfold State.progress
    rw [hentry]
    rfl
  have hset : ∀ progress, slots = s.slots.setProgress attempt entry progress →
      State.progress { s with slots := slots } attempt = some progress := by
    rintro progress rfl
    have hnew := progress_setProgress hentry progress attempt
    rw [if_pos rfl] at hnew
    exact hnew
  unfold State.Unadmitted at h ⊢
  rw [hself] at h
  unfold ProfileTaskExecutionContext.State.attemptStep at hstep
  obtain hnone | hcalled | ⟨usingSlotCnt, hread⟩ | hrefused := h
  · cases hnone
  · simp only [Option.some.inj hcalled] at hstep
    split at hstep
    · exact .inr (.inr (.inr (hset _ (Option.some.inj hstep).symm)))
    · exact .inr (.inr (.inl ⟨_, hset _ (Option.some.inj hstep).symm⟩))
  · simp only [Option.some.inj hread, gt_iff_lt, if_pos hexceeded, ite_self] at hstep
    exact .inr (.inr (.inr (hset _ (Option.some.inj hstep).symm)))
  · simp only [Option.some.inj hrefused] at hstep
    cases hstep

theorem unadmitted_of_transition
    (hexceeded : task.maxSamplingCount < s.slots.totalStartedProfilingCnt) {attempt : Nat}
    (h : s.Unadmitted attempt) {action : Action}
    (htransition : Transition maxParallel task s action s') : s'.Unadmitted attempt := by
  have hattempts : s'.slots.attempts = s.slots.attempts → s'.Unadmitted attempt := fun hsame =>
    unadmitted_of_progress (progress_of_attempts hsame attempt) h
  cases htransition with
  | addProfiling context op inherits assigns slots hready hstatus hslots =>
      cases hslots with
      | call => exact unadmitted_of_append rfl h
  | attempt context current assigns slots hcall hslots hother =>
      have hadvance := advance_of_transition (ProfileTaskExecutionContext.transition_of_step hslots)
      have hadvanced : Advanced current s { s with slots := slots } := advanced_of_advance hadvance
      by_cases heq : attempt = current
      · subst heq
        exact unadmitted_of_attemptStep hexceeded hslots h
      · exact unadmitted_of_progress (hadvanced.progress attempt heq) h
  | construct context current assigns slots hcall hslots hfirst =>
      have hadvance := advance_of_transition (ProfileTaskExecutionContext.transition_of_step hslots)
      have hadvanced : Advanced current s { s with slots := slots } := advanced_of_advance hadvance
      refine unadmitted_of_progress (s := { s with slots := slots }) ?_ ?_
      · exact progress_of_attempts (by rw [slots_construct]) attempt
      · by_cases heq : attempt = current
        · subst heq
          exact unadmitted_of_attemptStep hexceeded hslots h
        · exact unadmitted_of_progress (hadvanced.progress attempt heq) h
  | search elapsed idx profiler slots hloop hsearching hslots =>
      exact hattempts (attempts_of_stopStep hslots)
  | getContext | assignNone | reuse | settleTook | settleNone | recheckTook | recheckNone | update
  | startSpan | stopSpan | endThread | stopProfiling | finish | beginPass | endPass | skip | look | start
  | crash | wait | see | leave | dump | alive | frame | fail | accept | refuse | again | build | stopped
  | stop | stopCrash => exact hattempts rfl

theorem observe_eq_some {o o' : Observed} {action : Action}
    (hstep : Observe maxParallel task o action o') :
    Step maxParallel task o.state action o'.state ∧ o'.dumps = o.dumps ++ o.state.dump task action := by
  obtain ⟨s, hs, rfl⟩ := Option.map_eq_some_iff.mp hstep
  exact ⟨hs, rfl⟩

/-- Every run can be observed. -/
theorem observed_of_run {actions : List Action}
    (hrun : Run (Step maxParallel task) (State.init maxParallel) actions s) :
    ∃ dumps, Run (Observe maxParallel task) (Observed.init maxParallel) actions ⟨s, dumps⟩ := by
  induction hrun with
  | nil => exact ⟨[], .nil _⟩
  | @snoc middle next labels action hbefore hlast ih =>
      obtain ⟨dumps, hdumps⟩ := ih
      have hobserved : Observe maxParallel task ⟨middle, dumps⟩ action
          ⟨next, dumps ++ middle.dump task action⟩ :=
        Option.map_eq_some_iff.mpr ⟨next, hlast, rfl⟩
      exact ⟨_, hdumps.snoc hobserved⟩

/-- What holds of every observed run. -/
structure Accounted (task : ProfileTask) (o : Observed) : Prop where
  consistent : Consistent o.state
  counted : Counted task o.state o.dumps
  refused : Refused o.state o.dumps

theorem Accounted.init (maxParallel : Nat) : Accounted task (Observed.init maxParallel) :=
  ⟨.init maxParallel, .init maxParallel, fun _ h => (by cases h)⟩

theorem Accounted.step {o o' : Observed} (h : Accounted task o) {action : Action}
    (hstep : Observe maxParallel task o action o') : Accounted task o' := by
  obtain ⟨hnext, hdumps⟩ := observe_eq_some hstep
  obtain ⟨⟨own, hlinked⟩, hplaced⟩ := h.consistent
  have htransition := transition_of_step hnext
  have hkept := Kept.transition hlinked htransition
  refine ⟨h.consistent.step hnext, ?_, ?_⟩
  · rw [hdumps]
    exact h.counted.effect hkept hplaced (effect_of_transition hplaced htransition)
  · rw [hdumps]
    exact h.refused.step h.counted hlinked hplaced htransition

theorem accounted_of_run {actions : List Action} {o : Observed}
    (hrun : Run (Observe maxParallel task) (Observed.init maxParallel) actions o) :
    Accounted task o := by
  apply hrun.invariant (I := Accounted task)
  · intro o action o' h hstep
    exact h.step hstep
  · exact .init maxParallel

/-- After as many steps of the profile thread as there are slots, and one more, the slot is empty. -/
theorem released_of_run {profiler : Profiler} {later : List Action} (hconsistent : Consistent s)
    (hdismissed : Dismissed s profiler) (hrun : Run (Step maxParallel task) s later s') :
    Consistent s' ∧ Dismissed s' profiler ∧ ∀ idx, s'.Holds idx profiler →
      s.Holds idx profiler ∧ s'.remaining idx + later.countP Action.isProfile ≤ s.remaining idx := by
  induction hrun with
  | nil => exact ⟨hconsistent, hdismissed, fun idx hholds => ⟨hholds, by simp⟩⟩
  | snoc hbefore hlast ih =>
      obtain ⟨hmiddle, hdismissed', hnearer⟩ := ih
      obtain ⟨⟨own, hlinked⟩, hplaced⟩ := hmiddle
      have htransition := transition_of_step hlast
      obtain ⟨hnext, hnear⟩ := hdismissed'.transition hlinked hplaced htransition
      refine ⟨Consistent.step ⟨⟨own, hlinked⟩, hplaced⟩ hlast, hnext, ?_⟩
      intro idx hholds
      obtain ⟨hheld, hremaining⟩ := hnear idx hholds
      obtain ⟨hfirst, hall⟩ := hnearer idx hheld
      refine ⟨hfirst, ?_⟩
      rw [List.countP_append, List.countP_singleton]
      omega

theorem run_of_observed {o o' : Observed} {later : List Action}
    (hrun : Run (Observe maxParallel task) o later o') :
    Run (Step maxParallel task) o.state later o'.state ∧ o.dumps <+: o'.dumps := by
  induction hrun with
  | nil => exact ⟨.nil _, List.prefix_rfl⟩
  | snoc hbefore hlast ih =>
      obtain ⟨hstep, hdumps⟩ := observe_eq_some hlast
      refine ⟨ih.1.snoc hstep, ih.2.trans ?_⟩
      rw [hdumps]
      exact List.prefix_append _ _

theorem unadmitted_of_run {later : List Action} {attempt : Nat} (hconsistent : Consistent s)
    (hexceeded : task.maxSamplingCount < s.slots.totalStartedProfilingCnt)
    (h : s.Unadmitted attempt) (hrun : Run (Step maxParallel task) s later s') :
    s'.Unadmitted attempt := by
  have hkept : Consistent s' ∧ task.maxSamplingCount < s'.slots.totalStartedProfilingCnt ∧
      s'.Unadmitted attempt := by
    apply hrun.invariant (I := fun s => Consistent s ∧
      task.maxSamplingCount < s.slots.totalStartedProfilingCnt ∧ s.Unadmitted attempt)
    · rintro state action next ⟨hstate, hlimit, hattempt⟩ hstep
      have htransition := transition_of_step hstep
      refine ⟨hstate.step hstep, ?_, unadmitted_of_transition hlimit hattempt htransition⟩
      exact hlimit.trans_le (total_le_of_effect (effect_of_transition hstate.2 htransition))
    · exact ⟨hconsistent, hexceeded, h⟩
  exact hkept.2.2

theorem mem_dismissed {profiler : Profiler} {dumps : List Dump} (hmem : .refused profiler ∈ dumps) :
    profiler ∈ dismissed dumps :=
  List.mem_filterMap.mpr ⟨_, hmem, rfl⟩

theorem Counted.exists_sequences {dumps : List Dump} (h : Counted task s dumps) (profiler : Profiler) :
    ∃ count, sequences profiler dumps = List.range count := by
  by_cases hmem : profiler ∈ producers dumps
  · obtain ⟨idx, htook⟩ := h.taken profiler hmem
    exact ⟨_, h.numbered profiler htook.took.made⟩
  · rw [mem_producers_iff, not_not] at hmem
    exact ⟨0, hmem⟩

theorem remaining_le (s : State) (idx : Nat) : s.remaining idx ≤ idx + 2 := by
  unfold State.remaining
  split <;> omega

theorem remaining_pos {idx : Nat} {profiler : Profiler} (h : s.Clearing idx profiler) :
    0 < s.remaining idx := by
  unfold State.remaining
  obtain ⟨-, ⟨position, -, hscanning⟩ | hfound⟩ := h
  · rw [hscanning]
    exact Nat.succ_pos _
  · rw [hfound]
    exact Nat.one_pos

/-- At most as many profilers produce a snapshot as the task allows, and each numbers its snapshots from
0 without a gap. A profiler that was refused produces none, its slot is emptied before the profile thread
looks at the next one, and from then on no attempt passes the check of the started profilings. -/
theorem sampling_counted (maxParallel : Nat) (task : ProfileTask) {actions : List Action}
    {o : Observed} (hrun : Run (Observe maxParallel task) (Observed.init maxParallel) actions o) :
    (producers o.dumps).card ≤ task.maxSamplingCount.toNat ∧
      (∀ profiler, ∃ count, sequences profiler o.dumps = List.range count) ∧
      o.state.snapshots.map (fun snapshot => (snapshot.traceContext, snapshot.sequence)) =
        snapshots o.dumps ∧
      ∀ profiler, .refused profiler ∈ o.dumps →
        ∀ (later : List Action) (o' : Observed), Run (Observe maxParallel task) o later o' →
          profiler ∉ producers o'.dumps ∧
          (∀ idx, o'.state.Holds idx profiler → o'.state.loop = .stopping idx profiler) ∧
          (maxParallel < later.countP Action.isProfile → ∀ idx, ¬ o'.state.Holds idx profiler) ∧
          ∀ attempt, o.state.Unadmitted attempt → o'.state.Unadmitted attempt := by
  have haccounted := accounted_of_run hrun
  have hcounted := haccounted.counted
  refine ⟨(Nat.le_add_right _ _).trans hcounted.limited, hcounted.exists_sequences,
    hcounted.snapshots, ?_⟩
  intro profiler hmem later o' hlater
  obtain ⟨hsteps, hdumps⟩ := run_of_observed hlater
  obtain ⟨hdismissed, hnot⟩ :=
    (accounted_of_run (hrun.append hlater)).refused profiler (mem_dismissed (hdumps.subset hmem))
  refine ⟨hnot, fun idx hholds => (hdismissed.holds idx hholds).1, ?_, ?_⟩
  · intro hmany idx hholds
    have hbefore := (haccounted.refused profiler (mem_dismissed hmem)).1
    obtain ⟨-, -, hnearer⟩ := released_of_run haccounted.consistent hbefore hsteps
    have hremaining := (hnearer idx hholds).2
    have hlt := (List.getElem?_eq_some_iff.mp (hnearer idx hholds).1).1
    have hlength := (slots_balanced_of_run (run_of_observed hrun).1).length
    have hfirst := remaining_le o.state idx
    have hlast := remaining_pos (hdismissed.holds idx hholds)
    omega
  · intro attempt hattempt
    refine unadmitted_of_run haccounted.consistent (hcounted.exceeded ?_) hattempt hsteps
    exact List.ne_nil_of_mem (mem_dismissed hmem)

def onceTask : ProfileTask := { firstSpanOpName := "/users", maxSamplingCount := 1 }

def usersRequest (context attempts : Nat) : List Action :=
  [.app (.getContext context), .app (.newEntrySpan context "/users" false)] ++
    List.replicate attempts (.app (.attempt context)) ++ [.app (.settle context)]

/-- Two requests get slots; the second is refused at its first dump. -/
def twoRequests : List Action :=
  usersRequest 0 4 ++ usersRequest 1 5 ++ List.replicate 20 (.profile true)

theorem twoRequests_counted : ∃ o o',
    Run (Observe 2 onceTask) (Observed.init 2) twoRequests o ∧
    Run (Observe 2 onceTask) o (List.replicate 3 (.profile true)) o' ∧
    o.dumps = [.built ⟨0, 0⟩ 0, .refused ⟨1, 1⟩] ∧ o.state.Holds 1 ⟨1, 1⟩ ∧
    (producers o.dumps).card ≤ 1 ∧ ∀ idx, ¬ o'.state.Holds idx ⟨1, 1⟩ := by
  have hresult : ∃ o, Run (Observe 2 onceTask) (Observed.init 2) twoRequests o ∧
      o.dumps = [.built ⟨0, 0⟩ 0, .refused ⟨1, 1⟩] ∧
      o.state.slots.profilingSegmentSlots[1]? = some (some ⟨1, 1⟩) ∧
      ((List.replicate 3 (.profile true)).foldlM (observe 2 onceTask) o).isSome = true := by
    apply Run.exists_of_foldlM
    decide +kernel
  obtain ⟨o, hreached, hdumps, hheld, hgoes⟩ := hresult
  obtain ⟨o', hlater⟩ := Option.isSome_iff_exists.mp hgoes
  obtain ⟨hcard, -, -, hrefused⟩ := sampling_counted 2 onceTask hreached
  have hmem : .refused ⟨1, 1⟩ ∈ o.dumps := by
    rw [hdumps]
    decide
  obtain ⟨-, -, hreleased, -⟩ := hrefused ⟨1, 1⟩ hmem _ o' (Run.of_foldlM _ hlater)
  exact ⟨o, o', hreached, Run.of_foldlM _ hlater, hdumps, hheld, hcard, hreleased (by decide)⟩

end SkyWalking.ProfileThread
