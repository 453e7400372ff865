import SkyWalking.Proof.PublicationLemmas

/-!
# When the profile thread meets a status

Every step keeps the profilers linked to their contexts. The profile thread updates the status of a
profiler that it has found in a slot, so the status is there, and is the one the profiler tests, unless
the `new_entry_span` that made the profiler has yet to assign it.
-/

namespace SkyWalking.ProfileThread

variable {maxParallel : Nat} {task : ProfileTask} {s s' : State} {own : Nat → Nat}

theorem Linked.init (maxParallel : Nat) : Linked own (State.init maxParallel) := by
  have howner : ∀ attempt context, (State.init maxParallel).owner attempt ≠ some context := by
    intro attempt context h
    cases h
  refine ⟨fun _ _ => ⟨rfl, rfl⟩, fun _ _ _ h => (by cases h), ?_, fun _ _ h => (by cases h), ?_, ?_, ?_⟩
  · intro attempt context h
    exact absurd h.1 (howner attempt context)
  · intro attempt context h
    exact absurd h.1 (howner attempt context)
  · intro attempt context h
    exact absurd h.1 (howner attempt context)
  · intro attempt _ context h _
    exact absurd h.1 (howner attempt context)

theorem SameCalls.of_eq (hcontexts : s'.contexts = s.contexts)
    (hattempts : s'.slots.attempts = s.slots.attempts) (hprofilers : s'.profilers = s.profilers) :
    SameCalls s s' := by
  refine ⟨?_, ?_, ?_, hattempts, ?_⟩
  · rw [hcontexts]
  · intro context
    rw [hcontexts]
  · intro context
    rw [hcontexts]
  · intro attempt
    unfold State.reference
    rw [hprofilers]

theorem SameCalls.of_modify (context : Nat) (f : TraceContext → TraceContext)
    (hcontexts : s'.contexts = s.contexts.modify context f)
    (hattempts : s'.slots.attempts = s.slots.attempts) (hprofilers : s'.profilers = s.profilers)
    (hcall : ∀ c, (f c).call = c.call) (hstatus : ∀ c, (f c).profileStatus = c.profileStatus) :
    SameCalls s s' := by
  refine ⟨?_, ?_, ?_, hattempts, ?_⟩
  · rw [hcontexts, Store.size_modify]
  · intro other
    rw [hcontexts, Store.get_modify]
    split
    · exact hcall _
    · rfl
  · intro other
    rw [hcontexts, Store.get_modify]
    split
    · exact hstatus _
    · rfl
  · intro attempt
    unfold State.reference
    rw [hprofilers]

theorem Linked.getContext (h : Linked own s) (thread : Nat) :
    Linked own { s with contexts := s.contexts.alloc { thread := thread } } := by
  obtain ⟨hcall, hstatus⟩ := h.fresh s.contexts.size le_rfl
  refine h.congr_references ⟨Nat.le_succ _, ?_, ?_, rfl, fun _ => rfl⟩ rfl
  · intro context
    rw [Store.get_alloc]
    split
    · next heq => rw [heq, hcall]
    · rfl
  · intro context
    rw [Store.get_alloc]
    split
    · next heq => rw [heq, hstatus]
    · rfl

theorem Linked.build (h : Linked own s) (idx : Nat) (profiler : Profiler) :
    Linked own (s.buildSnapshot idx profiler) := by
  refine h.congr_references ⟨le_rfl, fun _ => rfl, fun _ => rfl, rfl, ?_⟩ rfl
  intro attempt
  unfold State.reference State.buildSnapshot
  rw [Store.get_modify]
  split <;> rfl

/-- The steps of `stop_tracing_profile` change no attempt. -/
theorem attempts_of_stopStep {t t' : ProfileTaskExecutionContext.State}
    (h : ProfileTaskExecutionContext.Transition maxParallel t .stopStep t') :
    t'.attempts = t.attempts := by
  cases h <;> rfl

/-- What every step keeps. -/
theorem Linked.transition (h : Linked own s) {action : Action}
    (htransition : Transition maxParallel task s action s') : ∃ own', Linked own' s' := by
  have hsame : s'.contexts = s.contexts → s'.slots.attempts = s.slots.attempts →
      s'.profilers = s.profilers → s'.references = s.references → ∃ own', Linked own' s' :=
    fun hcontexts hattempts hprofilers hrefs =>
      ⟨own, h.congr_references (.of_eq hcontexts hattempts hprofilers) hrefs⟩
  cases htransition with
  | getContext thread => exact ⟨own, h.getContext thread⟩
  | assignNone context op inherits hready hnone =>
      refine ⟨_, h.assignNone hready.1 (h.not_active ?_) (h.not_made hready.2.2.1 ?_)⟩
      · intro attempt assigns hcall
        rw [hready.2.2.1] at hcall
        cases hcall
      · intro reference hreference
        rw [hnone] at hreference
        cases hreference
  | addProfiling context op inherits assigns slots hready hstatus hslots =>
      exact ⟨own, h.addProfiling hready hstatus hslots⟩
  | reuse context op inherits => exact ⟨own, h⟩
  | attempt context attempt assigns slots hcall hslots hother =>
      have hadvance := advance_of_transition (ProfileTaskExecutionContext.transition_of_step hslots)
      exact ⟨own, h.proceed hcall hadvance hother⟩
  | construct context attempt assigns slots hcall hslots hfirst =>
      have hadvance := advance_of_transition (ProfileTaskExecutionContext.transition_of_step hslots)
      exact h.construct hcall hadvance hfirst
  | settleTook context attempt idx hcall hprogress => exact ⟨own, h.settleTook hcall hprogress⟩
  | settleNone context attempt hcall hprogress =>
      have hlt := h.lt_of_called (by rw [hcall]; exact Call.noConfusion)
      have hnone := (h.called context attempt true hcall).2.mp rfl
      refine ⟨_, h.assignNone hlt (h.not_active ?_) ?_⟩
      · intro attempt' assigns' hother
        obtain ⟨rfl, -⟩ := Call.attempting.inj (hcall.symm.trans hother)
        exact not_active_of_progress (.inr hprogress)
      · intro attempt' hmade
        obtain rfl := h.attempt_eq hcall hmade hnone
        exact not_made_of_progress hprogress hmade
  | recheckTook context attempt idx hcall hprogress =>
      refine ⟨own, h.recheck hcall (not_active_of_progress (.inl ⟨idx, hprogress⟩)) ?_⟩
      intro htook
      exact (h.made attempt context htook.made).2.2.1
  | recheckNone context attempt hcall hprogress =>
      refine ⟨own, h.recheck hcall (not_active_of_progress (.inr hprogress)) ?_⟩
      intro htook
      exact absurd htook.made (not_made_of_progress hprogress)
  | update context reference status hcall hstatus => exact ⟨own, h.update hcall hstatus⟩
  | startSpan context =>
      refine ⟨own, h.congr_references ?_ rfl⟩
      exact .of_modify context (fun c => { c with nspans := c.nspans + 1 }) rfl rfl rfl
        (fun _ => rfl) fun _ => rfl
  | stopSpan context =>
      refine ⟨own, h.congr_references ?_ rfl⟩
      exact .of_modify context
        (fun c => { c with nspans := c.nspans - 1, archived := decide (c.nspans - 1 = 0) })
        rfl rfl rfl (fun _ => rfl) fun _ => rfl
  | endThread thread => exact hsame rfl rfl rfl rfl
  | finish elapsed | beginPass elapsed | endPass elapsed | skip elapsed | look elapsed | crash | wait
  | see elapsed | leave elapsed | dump elapsed | alive elapsed | frame elapsed | fail elapsed
  | accept elapsed | refuse elapsed | again elapsed | stopped elapsed | stopCrash elapsed
  | stopProfiling => exact hsame rfl rfl rfl rfl
  | start idx reference profiler hloop hpending hstatus =>
      exact ⟨own, h.setReference (.of_eq rfl rfl rfl) hstatus ProfileStatus.noConfusion rfl⟩
  | build elapsed idx profiler hloop => exact ⟨own, h.build idx profiler⟩
  | search elapsed idx profiler slots hloop hsearching hslots =>
      exact hsame rfl (attempts_of_stopStep hslots) rfl rfl
  | stop elapsed idx reference profiler stopped hloop hcleared hstatus =>
      exact ⟨own, h.setReference (.of_eq rfl rfl rfl) hstatus ProfileStatus.noConfusion rfl⟩

/-- The attempt of the profiler has put it into the slot. -/
def State.TookAt (s : State) (idx : Nat) (profiler : Profiler) : Prop :=
  s.owner profiler.attempt = some profiler.traceContext ∧
    s.progress profiler.attempt = some (.took idx)

theorem State.TookAt.took {idx : Nat} {profiler : Profiler} (h : s.TookAt idx profiler) :
    s.Took profiler.attempt profiler.traceContext :=
  ⟨h.1, idx, h.2⟩

/-- What no step takes back. -/
structure Kept (s s' : State) : Prop where
  tookAt : ∀ idx profiler, s.TookAt idx profiler → s'.TookAt idx profiler
  status : ∀ context, (s.contexts.get context).profileStatus ≠ none →
    (s'.contexts.get context).profileStatus ≠ none
  holds : ∀ idx profiler, s'.Holds idx profiler → s.Holds idx profiler ∨
    s'.TookAt idx profiler ∧ ∃ position, s.progress profiler.attempt = some (.scanning position)

theorem tookAt_of_attempts (hattempts : s'.slots.attempts = s.slots.attempts) (idx : Nat)
    (profiler : Profiler) : s'.TookAt idx profiler ↔ s.TookAt idx profiler := by
  unfold State.TookAt
  rw [owner_of_attempts hattempts, progress_of_attempts hattempts]

theorem Kept.of_attempts (hattempts : s'.slots.attempts = s.slots.attempts)
    (hstatus : ∀ context, (s.contexts.get context).profileStatus ≠ none →
      (s'.contexts.get context).profileStatus ≠ none)
    (hholds : ∀ idx profiler, s'.Holds idx profiler → s.Holds idx profiler) : Kept s s' :=
  ⟨fun idx profiler h => (tookAt_of_attempts hattempts idx profiler).mpr h, hstatus,
    fun idx profiler h => .inl (hholds idx profiler h)⟩

theorem Kept.of_slots (hslots : s'.slots = s.slots)
    (hstatus : ∀ context, (s.contexts.get context).profileStatus ≠ none →
      (s'.contexts.get context).profileStatus ≠ none) : Kept s s' := by
  refine .of_attempts (by rw [hslots]) hstatus ?_
  intro idx profiler hholds
  unfold State.Holds at hholds ⊢
  rw [← hslots]
  exact hholds

theorem Kept.of_eq (hslots : s'.slots = s.slots) (hcontexts : s'.contexts = s.contexts) :
    Kept s s' := by
  refine .of_slots hslots ?_
  intro context h
  rw [hcontexts]
  exact h

theorem Kept.modify (context : Nat) (f : TraceContext → TraceContext) (hslots : s'.slots = s.slots)
    (hcontexts : s'.contexts = s.contexts.modify context f)
    (hstatus : ∀ c, c.profileStatus ≠ none → (f c).profileStatus ≠ none) : Kept s s' := by
  refine .of_slots hslots ?_
  intro other h
  rw [hcontexts, Store.get_modify]
  split
  · exact hstatus _ h
  · exact h

theorem attempt_of_step {t t' : ProfileTaskExecutionContext.State} {index : Nat}
    (hstep : ProfileTaskExecutionContext.Step maxParallel task t (.attemptStep index) t') :
    ∃ attempt, t.attempts[index]? = some attempt ∧
      t.attemptStep maxParallel task index attempt = some t' := by
  simp only [ProfileTaskExecutionContext.Step, ProfileTaskExecutionContext.step] at hstep
  cases hattempt : t.attempts[index]? with
  | none => simp [hattempt] at hstep
  | some attempt =>
      rw [hattempt] at hstep
      exact ⟨attempt, rfl, hstep⟩

/-- An attempt that has put its profiler into a slot is over. -/
theorem not_took_of_step {slots : ProfileTaskExecutionContext.State} {attempt : Nat}
    (hstep : ProfileTaskExecutionContext.Step maxParallel task s.slots (.attemptStep attempt) slots)
    (idx : Nat) : s.progress attempt ≠ some (.took idx) := by
  obtain ⟨entry, hentry, hnext⟩ := attempt_of_step hstep
  intro hprogress
  unfold State.progress at hprogress
  rw [hentry] at hprogress
  have htook : entry.progress = .took idx := Option.some.inj hprogress
  simp [ProfileTaskExecutionContext.State.attemptStep, htook] at hnext

theorem Kept.proceed {slots : ProfileTaskExecutionContext.State} {attempt : Nat}
    (hstep : ProfileTaskExecutionContext.Step maxParallel task s.slots (.attemptStep attempt) slots)
    (hslots : s'.slots = slots) (hcontexts : s'.contexts = s.contexts) : Kept s s' := by
  have hadvance := advance_of_transition (ProfileTaskExecutionContext.transition_of_step hstep)
  rw [← hslots] at hadvance
  have hadvanced : Advanced attempt s s' := advanced_of_advance hadvance
  refine ⟨?_, ?_, ?_⟩
  · rintro idx profiler ⟨howner, hprogress⟩
    refine ⟨by rw [hadvanced.owner, howner], ?_⟩
    rw [hadvanced.progress, hprogress]
    rintro rfl
    exact not_took_of_step hstep idx hprogress
  · intro context h
    rw [hcontexts]
    exact h
  · intro idx profiler hholds
    unfold State.Holds at hholds
    generalize ht : s'.slots = t at hadvance hholds
    cases hadvance with
    | go entry progress count hentry htook => exact .inl hholds
    | take entry position hentry hprogress hslot =>
        by_cases heq : position = idx
        · subst heq
          have hlt := (List.getElem?_eq_some_iff.mp hslot).1
          rw [List.getElem?_set_self hlt] at hholds
          obtain rfl := Option.some.inj (Option.some.inj hholds)
          have hself : s.progress attempt = some (.scanning position) := by
            unfold State.progress
            rw [hentry, ← hprogress]
            rfl
          refine .inr ⟨⟨?_, ?_⟩, position, hself⟩
          · rw [hadvanced.owner]
            unfold State.owner
            rw [List.getElem?_map, hentry]
            rfl
          · unfold State.progress
            rw [ht]
            have htook := progress_setProgress hentry (.took position) attempt
            rw [if_pos rfl] at htook
            exact htook
        · rw [List.getElem?_set_ne heq] at hholds
          exact .inl hholds

theorem Kept.addProfiling {slots : ProfileTaskExecutionContext.State} {context : Nat} {op : String}
    {call : Call}
    (hslots : ProfileTaskExecutionContext.Transition maxParallel s.slots
      (.attemptProfiling context op) slots) :
    Kept s ({ s with slots := slots }.setCall context call) := by
  cases hslots with
  | call =>
      refine ⟨?_, ?_, fun _ _ h => .inl h⟩
      · rintro idx profiler ⟨howner, hprogress⟩
        have hlt : profiler.attempt < s.slots.attempts.length := by
          have hbound := (List.getElem?_eq_some_iff.mp howner).1
          rwa [List.length_map] at hbound
        refine ⟨?_, ?_⟩
        · change (List.map _ (s.slots.attempts ++ [_]))[profiler.attempt]? = _
          rw [List.map_append, List.getElem?_append_left (by rwa [List.length_map])]
          exact howner
        · change ((s.slots.attempts ++ [_])[profiler.attempt]?).map _ = _
          rw [List.getElem?_append_left hlt]
          exact hprogress
      · intro other h
        by_cases heq : other = context
        · subst heq
          rw [get_setCall_self]
          exact h
        · rw [get_setCall_of_ne _ _ heq]
          exact h

theorem Kept.stopStep {t : ProfileTaskExecutionContext.State}
    (hslots : ProfileTaskExecutionContext.Transition maxParallel s.slots .stopStep t) :
    Kept s { s with slots := t } := by
  refine .of_attempts (attempts_of_stopStep hslots) (fun _ h => h) ?_
  intro idx profiler hholds
  unfold State.Holds at hholds ⊢
  cases hslots with
  | clear position stopped _ =>
      by_cases heq : position = idx
      · subst heq
        rw [List.getElem?_set_self'] at hholds
        cases hslot : s.slots.profilingSegmentSlots[position]? with
        | none => simp [hslot] at hholds
        | some slot => simp [hslot] at hholds
      · rw [List.getElem?_set_ne heq] at hholds
        exact hholds
  | advance | miss | find | stop | lower => exact hholds

theorem Kept.setCall (s : State) (references : Store ProfileStatus) (context : Nat) (call : Call) :
    Kept s ({ s with references := references }.setCall context call) :=
  .modify context (fun c => { c with call := call }) rfl rfl fun _ h => h

theorem Kept.setProfileStatus (s : State) (references : Store ProfileStatus)
    (context reference : Nat) :
    Kept s ({ s with references := references }.setProfileStatus context reference) :=
  .modify context (fun c => { c with profileStatus := some reference, call := .idle }) rfl rfl
    fun _ _ => Option.some_ne_none _

theorem Kept.transition (h : Linked own s) {action : Action}
    (htransition : Transition maxParallel task s action s') : Kept s s' := by
  cases htransition with
  | getContext thread =>
      refine .of_slots rfl ?_
      intro context hsome
      rw [Store.get_alloc_of_ne]
      · exact hsome
      · rintro rfl
        exact hsome (h.fresh _ le_rfl).2
  | assignNone context | settleNone context | settleTook context =>
      exact .setProfileStatus s _ context _
  | addProfiling context op inherits assigns slots hready hstatus hslots => exact .addProfiling hslots
  | attempt context attempt assigns slots hcall hslots => exact .proceed hslots rfl rfl
  | construct context attempt assigns slots hcall hslots =>
      refine .proceed hslots ?_ ?_
      · unfold State.construct
        split <;> rfl
      · unfold State.construct
        split <;> rfl
  | recheckTook context | recheckNone context | update context => exact .setCall s _ context _
  | startSpan context =>
      exact .modify context (fun c => { c with nspans := c.nspans + 1 }) rfl rfl fun _ hsome => hsome
  | stopSpan context =>
      exact .modify context
        (fun c => { c with nspans := c.nspans - 1, archived := decide (c.nspans - 1 = 0) })
        rfl rfl fun _ hsome => hsome
  | search elapsed idx profiler slots hloop hsearching hslots => exact .stopStep hslots
  | fail | accept | refuse | stop => exact .of_attempts rfl (fun _ h => h) fun _ _ h => h
  | reuse | endThread | finish | beginPass | endPass | skip | look | start | crash | wait | see | leave
  | dump | alive | frame | again | build | stopped | stopCrash | stopProfiling =>
      exact .of_eq rfl rfl

/-- The profiler that the profile thread has read from a slot. -/
def Loop.visiting : Loop → Option (Nat × Profiler)
  | .looking idx profiler | .looked idx profiler | .dumping idx profiler | .framing idx profiler
  | .counting idx profiler | .building idx profiler | .stopping idx profiler => some (idx, profiler)
  | .sleeping | .passing _ | .ended => none

/-- The profiler that was found to be `PROFILING`. -/
def Loop.sampling : Loop → Option Profiler
  | .dumping _ profiler | .framing _ profiler | .counting _ profiler | .building _ profiler
  | .stopping _ profiler => some profiler
  | .sleeping | .passing _ | .looking _ _ | .looked _ _ | .ended => none

/-- The context that `stop_tracing_profile` was called for. -/
def sought : ProfileTaskExecutionContext.Stopping → Option Nat
  | .scanning traceContext _ => some traceContext
  | .found _ profiler | .cleared profiler => some profiler.traceContext
  | .idle | .stopped => none

/-- The profilers that the profile thread deals with were put into slots, and the contexts of those that
it has found to be `PROFILING` know their statuses. -/
structure Placed (s : State) : Prop where
  holds : ∀ idx profiler, s.Holds idx profiler → s.TookAt idx profiler
  visiting : ∀ idx profiler, s.loop.visiting = some (idx, profiler) → s.TookAt idx profiler
  sampling : ∀ profiler, s.loop.sampling = some profiler →
    (s.contexts.get profiler.traceContext).profileStatus ≠ none
  sought : ∀ context, sought s.slots.stopping = some context →
    (s.contexts.get context).profileStatus ≠ none
  found : ∀ idx profiler, s.slots.stopping = .found idx profiler → s.TookAt idx profiler
  cleared : ∀ profiler, s.slots.stopping = .cleared profiler → ∃ idx, s.TookAt idx profiler

theorem Placed.init (maxParallel : Nat) : Placed (State.init maxParallel) := by
  refine ⟨?_, fun _ _ h => (by cases h), fun _ h => (by cases h), fun _ h => (by cases h),
    fun _ _ h => (by cases h), fun _ h => (by cases h)⟩
  intro idx profiler hholds
  have hmem := List.mem_of_getElem? hholds
  cases List.eq_of_mem_replicate hmem

section Placed

variable (h : Placed s) (hkept : Kept s s')

include h hkept

theorem Placed.holds_of (idx : Nat) (profiler : Profiler) (hholds : s'.Holds idx profiler) :
    s'.TookAt idx profiler := by
  obtain hold | ⟨hnew, -⟩ := hkept.holds idx profiler hholds
  · exact hkept.tookAt idx profiler (h.holds idx profiler hold)
  · exact hnew

/-- The profile thread goes on, and `stop_tracing_profile` does not. -/
theorem Placed.goTo (hstopping : s'.slots.stopping = s.slots.stopping)
    (hvisiting : ∀ idx profiler, s'.loop.visiting = some (idx, profiler) →
      s.loop.visiting = some (idx, profiler) ∨ s.Holds idx profiler)
    (hsampling : ∀ profiler, s'.loop.sampling = some profiler →
      s.loop.sampling = some profiler ∨
        (s.contexts.get profiler.traceContext).profileStatus ≠ none) : Placed s' := by
  refine ⟨h.holds_of hkept, ?_, ?_, ?_, ?_, ?_⟩
  · intro idx profiler hnext
    obtain hold | hholds := hvisiting idx profiler hnext
    · exact hkept.tookAt idx profiler (h.visiting idx profiler hold)
    · exact hkept.tookAt idx profiler (h.holds idx profiler hholds)
  · intro profiler hnext
    obtain hold | hstatus := hsampling profiler hnext
    · exact hkept.status _ (h.sampling profiler hold)
    · exact hkept.status _ hstatus
  · intro context hsought
    rw [hstopping] at hsought
    exact hkept.status _ (h.sought context hsought)
  · intro idx profiler hfound
    rw [hstopping] at hfound
    exact hkept.tookAt idx profiler (h.found idx profiler hfound)
  · intro profiler hcleared
    rw [hstopping] at hcleared
    obtain ⟨idx, htook⟩ := h.cleared profiler hcleared
    exact ⟨idx, hkept.tookAt idx profiler htook⟩

/-- The profile thread is in `stop_tracing_profile`. -/
theorem Placed.inStop
    (hvisiting : s'.loop.visiting = s.loop.visiting) (hsampling : s'.loop.sampling = s.loop.sampling)
    (hsought : ∀ context, ProfileThread.sought s'.slots.stopping = some context →
      (s.contexts.get context).profileStatus ≠ none)
    (hfound : ∀ idx profiler, s'.slots.stopping = .found idx profiler → s.Holds idx profiler)
    (hcleared : ∀ profiler, s'.slots.stopping = .cleared profiler →
      ∃ idx, s.slots.stopping = .found idx profiler) : Placed s' := by
  refine ⟨h.holds_of hkept, ?_, ?_, ?_, ?_, ?_⟩
  · intro idx profiler hnext
    rw [hvisiting] at hnext
    exact hkept.tookAt idx profiler (h.visiting idx profiler hnext)
  · intro profiler hnext
    rw [hsampling] at hnext
    exact hkept.status _ (h.sampling profiler hnext)
  · intro context hnext
    exact hkept.status _ (hsought context hnext)
  · intro idx profiler hnext
    exact hkept.tookAt idx profiler (h.holds idx profiler (hfound idx profiler hnext))
  · intro profiler hnext
    obtain ⟨idx, hold⟩ := hcleared profiler hnext
    exact ⟨idx, hkept.tookAt idx profiler (h.found idx profiler hold)⟩

end Placed

/-- A profiler that is not `PENDING` shares its status with its context. -/
theorem Linked.shares (h : Linked own s) {profiler : Profiler}
    (htook : s.Took profiler.attempt profiler.traceContext) (hstatus : s.status profiler ≠ .pending) :
    s.Shares profiler := by
  obtain ⟨-, -, -, hshares | ⟨-, hpending⟩⟩ := h.made _ _ htook.made
  · exact hshares
  · exact absurd hpending hstatus

theorem stopping_of_step {t t' : ProfileTaskExecutionContext.State} {attempt : Nat}
    (hstep : ProfileTaskExecutionContext.Step maxParallel task t (.attemptStep attempt) t') :
    t'.stopping = t.stopping := by
  cases advance_of_transition (ProfileTaskExecutionContext.transition_of_step hstep) <;> rfl

theorem loop_construct (s : State) (context attempt : Nat) :
    (s.construct context attempt).loop = s.loop := by
  unfold State.construct
  split <;> rfl

theorem slots_construct (s : State) (context attempt : Nat) :
    (s.construct context attempt).slots = s.slots := by
  unfold State.construct
  split <;> rfl

/-- `stop_tracing_profile` is called for the profiler that is being sampled. -/
theorem Placed.giveUp (hplaced : Placed s) (hkept : Kept s s') {idx : Nat} {profiler : Profiler}
    (hvisiting : s.loop.visiting = some (idx, profiler)) (hsampling : s.loop.sampling = some profiler)
    (hloop : s'.loop = .stopping idx profiler)
    (hstopping : s'.slots.stopping = .scanning profiler.traceContext 0) : Placed s' := by
  refine hplaced.inStop hkept (by rw [hloop, hvisiting]; rfl) (by rw [hloop, hsampling]; rfl) ?_ ?_ ?_
  · intro context hsought
    rw [hstopping] at hsought
    obtain rfl := Option.some.inj hsought
    exact hplaced.sampling profiler hsampling
  · intro other other' hfound
    rw [hstopping] at hfound
    cases hfound
  · intro other hcleared
    rw [hstopping] at hcleared
    cases hcleared

theorem Placed.search (hplaced : Placed s) {slots : ProfileTaskExecutionContext.State}
    (hslots : ProfileTaskExecutionContext.Transition maxParallel s.slots .stopStep slots) :
    Placed { s with slots := slots } := by
  refine hplaced.inStop (.stopStep hslots) rfl rfl ?_ ?_ ?_
  · intro context hsought
    cases hslots with
    | advance traceContext position hscanning =>
        obtain rfl := Option.some.inj hsought
        exact hplaced.sought _ (by rw [hscanning]; rfl)
    | find traceContext position found hscanning hslot hcontext =>
        obtain rfl := Option.some.inj hsought
        exact hplaced.sought _ (by rw [hscanning, hcontext]; rfl)
    | clear position found hfound =>
        obtain rfl := Option.some.inj hsought
        exact hplaced.sought _ (by rw [hfound]; rfl)
    | miss | stop | lower => cases hsought
  · intro other other' hfound
    cases hslots with
    | find traceContext position found hscanning hslot hcontext =>
        obtain ⟨rfl, rfl⟩ := ProfileTaskExecutionContext.Stopping.found.inj hfound
        exact hslot
    | advance | miss | clear | stop | lower => cases hfound
  · intro other hcleared
    cases hslots with
    | clear position found hfound =>
        obtain rfl := ProfileTaskExecutionContext.Stopping.cleared.inj hcleared
        exact ⟨position, hfound⟩
    | advance | miss | find | stop | lower => cases hcleared

theorem Placed.transition (hplaced : Placed s) (h : Linked own s) {action : Action}
    (htransition : Transition maxParallel task s action s') : Placed s' := by
  have hkept := Kept.transition h htransition
  have hsame : s'.slots.stopping = s.slots.stopping → s'.loop = s.loop → Placed s' := by
    intro hstopping hloop
    refine hplaced.goTo hkept hstopping ?_ ?_
    · intro idx profiler hnext
      rw [hloop] at hnext
      exact .inl hnext
    · intro profiler hnext
      rw [hloop] at hnext
      exact .inl hnext
  cases htransition with
  | attempt context attempt assigns slots hcall hslots => exact hsame (stopping_of_step hslots) rfl
  | construct context attempt assigns slots hcall hslots =>
      refine hsame ?_ (loop_construct _ _ _)
      rw [slots_construct]
      exact stopping_of_step hslots
  | addProfiling context op inherits assigns slots hready hstatus hslots =>
      cases hslots with
      | call => exact hsame rfl rfl
  | getContext | assignNone | reuse | settleTook | settleNone | recheckTook | recheckNone | update
  | startSpan | stopSpan | endThread | stopProfiling => exact hsame rfl rfl
  | finish | beginPass | endPass | skip | start | crash | wait | leave | stopped | stopCrash =>
      exact hplaced.goTo hkept rfl (fun _ _ hnext => by cases hnext) fun _ hnext => by cases hnext
  | build elapsed idx profiler hloop =>
      exact hplaced.goTo hkept rfl (fun _ _ hnext => by cases hnext) fun _ hnext => by cases hnext
  | look elapsed idx profiler hloop hslot =>
      refine hplaced.goTo hkept rfl ?_ fun _ hnext => by cases hnext
      intro other other' hnext
      obtain ⟨rfl, rfl⟩ := Prod.mk.inj (Option.some.inj hnext)
      exact .inr hslot
  | see elapsed idx profiler hloop =>
      refine hplaced.goTo hkept rfl ?_ fun _ hnext => by cases hnext
      intro other other' hnext
      exact .inl (by rw [hloop]; exact hnext)
  | dump elapsed idx profiler hloop hprofiling =>
      refine hplaced.goTo hkept rfl ?_ ?_
      · intro other other' hnext
        exact .inl (by rw [hloop]; exact hnext)
      · intro other hnext
        obtain rfl := Option.some.inj hnext
        have htook := (hplaced.visiting idx profiler (by rw [hloop]; rfl)).took
        refine .inr ?_
        rw [h.shares htook (by rw [hprofiling]; exact ProfileStatus.noConfusion)]
        exact Option.some_ne_none _
  | alive elapsed idx profiler hloop | frame elapsed idx profiler hloop
  | accept elapsed idx profiler hloop | again elapsed idx profiler hloop =>
      refine hplaced.goTo hkept rfl ?_ ?_
      · intro other other' hnext
        exact .inl (by rw [hloop]; exact hnext)
      · intro other hnext
        exact .inl (by rw [hloop]; exact hnext)
  | fail elapsed idx profiler hloop =>
      obtain hloop | hloop := hloop
      · exact hplaced.giveUp hkept (by rw [hloop]; rfl) (by rw [hloop]; rfl) rfl rfl
      · exact hplaced.giveUp hkept (by rw [hloop]; rfl) (by rw [hloop]; rfl) rfl rfl
  | refuse elapsed idx profiler hloop =>
      exact hplaced.giveUp hkept (by rw [hloop]; rfl) (by rw [hloop]; rfl) rfl rfl
  | search elapsed idx profiler slots hloop hsearching hslots => exact hplaced.search hslots
  | stop elapsed idx reference profiler stopped hloop hcleared hstatus =>
      exact hplaced.inStop hkept rfl rfl (fun _ hnext => by cases hnext)
        (fun _ _ hnext => by cases hnext) fun _ hnext => by cases hnext

/-- What holds of the profilers in every run. -/
def Consistent (s : State) : Prop := (∃ own, Linked own s) ∧ Placed s

theorem Consistent.step (h : Consistent s) {action : Action} (hstep : Step maxParallel task s action s') :
    Consistent s' := by
  obtain ⟨⟨own, hlinked⟩, hplaced⟩ := h
  have htransition := transition_of_step hstep
  exact ⟨hlinked.transition htransition, hplaced.transition hlinked htransition⟩

theorem Consistent.init (maxParallel : Nat) : Consistent (State.init maxParallel) :=
  ⟨⟨fun _ => 0, .init maxParallel⟩, .init maxParallel⟩

section Settled

variable {profiler : Profiler} (h : Linked own s)
  (htook : s.Took profiler.attempt profiler.traceContext)

include h htook

theorem Linked.shares_iff :
    s.Shares profiler ↔ (s.contexts.get profiler.traceContext).profileStatus ≠ none := by
  constructor
  · intro hshares
    rw [hshares]
    exact Option.some_ne_none _
  · intro hsome
    obtain ⟨-, -, -, hshares | ⟨hcall, -⟩⟩ := h.made _ _ htook.made
    · exact hshares
    · exact absurd ((h.called _ _ true hcall).2.mp rfl) hsome

/-- The context does not know the status while the call that made the profiler has yet to assign it. -/
theorem Linked.shares_iff_assigned :
    s.Shares profiler ↔
      (s.contexts.get profiler.traceContext).call ≠ .attempting profiler.attempt true := by
  constructor
  · intro hshares hcall
    exact (h.shares_iff htook).mp hshares ((h.called _ _ true hcall).2.mp rfl)
  · intro hassigned
    obtain ⟨-, -, -, hshares | ⟨hcall, -⟩⟩ := h.made _ _ htook.made
    · exact hshares
    · exact absurd hcall hassigned

end Settled

/-- The status is the profiler's own exactly if the call that made the profiler has assigned it. -/
theorem Consistent.publishes_iff_settled (h : Consistent s) (action : Action) :
    s.Publishes action ↔ s.settled action = true := by
  obtain ⟨⟨own, hlinked⟩, hplaced⟩ := h
  have htrivial : s.dereferenced action = none → s.settled action = true →
      (s.Publishes action ↔ s.settled action = true) := by
    intro hnone hsettled
    refine ⟨fun _ => hsettled, ?_⟩
    intro _ profiler hprofiler
    rw [hnone] at hprofiler
    cases hprofiler
  cases action with
  | app action => exact htrivial rfl rfl
  | stopProfiling => exact htrivial rfl rfl
  | profile elapsed =>
      cases hloop : s.loop with
      | looking idx profiler =>
          have htook := (hplaced.visiting idx profiler (by rw [hloop]; rfl)).took
          by_cases hstarts : s.status profiler = .pending ∧ elapsed = true
          · have hpublishes : s.Publishes (.profile elapsed) ↔ s.Shares profiler := by
              simp [State.Publishes, State.dereferenced, hloop, hstarts]
            rw [hpublishes, hlinked.shares_iff_assigned htook]
            simp [State.settled, hloop, hstarts]
          · refine htrivial ?_ ?_
            · simp only [State.dereferenced, hloop, if_neg hstarts]
            · simp only [State.settled, hloop]
              by_cases helapsed : elapsed = true
              · have hother : s.status profiler ≠ .pending := fun hpending =>
                  hstarts ⟨hpending, helapsed⟩
                simp [hother]
              · simp [helapsed]
      | stopping idx profiler =>
          have hsettled : s.settled (.profile elapsed) = true := by simp [State.settled, hloop]
          refine ⟨fun _ => hsettled, ?_⟩
          intro _ stopped hstopped
          cases hstopping : s.slots.stopping with
          | cleared cleared =>
              simp only [State.dereferenced, hloop, hstopping] at hstopped
              obtain rfl := Option.some.inj hstopped
              obtain ⟨position, htook⟩ := hplaced.cleared _ hstopping
              rw [hlinked.shares_iff htook.took]
              exact hplaced.sought _ (by rw [hstopping]; rfl)
          | idle | scanning | found | stopped =>
              simp [State.dereferenced, hloop, hstopping] at hstopped
      | sleeping | passing | looked | dumping | framing | counting | building | ended =>
          refine htrivial ?_ ?_
          · simp [State.dereferenced, hloop]
          · simp [State.settled, hloop]

/-- The runs in which the profile thread updates no status but that of the profiler it has found, and
never `None`, are those in which it starts no profiler before the call that made the profiler has
assigned its status. -/
theorem settled_runs_publish (maxParallel : Nat) (task : ProfileTask) (actions : List Action)
    (s : State) :
    Run (Guarded (fun s action => s.settled action = true) (Step maxParallel task))
        (State.init maxParallel) actions s ↔
      Run (Guarded State.Publishes (Step maxParallel task)) (State.init maxParallel) actions s := by
  have hstep : ∀ state action next, Consistent state → Step maxParallel task state action next →
      Consistent next := fun _ _ _ h hnext => h.step hnext
  constructor
  · intro hrun
    exact hrun.guard_mono hstep (fun _ action h => (h.publishes_iff_settled action).mpr)
      (.init maxParallel)
  · intro hrun
    exact hrun.guard_mono hstep (fun _ action h => (h.publishes_iff_settled action).mp)
      (.init maxParallel)

/-- The request thread has put the profiler into the slot and is preempted before it assigns the status;
the profile thread finds the profiler. -/
def preemptedRequest : List Action :=
  [.app (.getContext 0), .app (.newEntrySpan 0 "/users" false), .app (.attempt 0), .app (.attempt 0),
    .app (.attempt 0), .app (.attempt 0), .profile false, .profile false]

theorem preemptedRequest_not_published : ¬ ∀ (maxParallel : Nat) (task : ProfileTask)
    (actions : List Action) (s : State) (action : Action) (s' : State),
    Run (Step maxParallel task) (State.init maxParallel) actions s →
      Step maxParallel task s action s' → s.Publishes action := by
  intro hall
  have hresult : ∃ s, Run (Step 1 usersTask) (State.init 1) preemptedRequest s ∧
      s.dereferenced (.profile true) = some ⟨0, 0⟩ ∧ (s.contexts.get 0).profileStatus = none ∧
      (step 1 usersTask s (.profile true)).map State.loop = some .ended := by
    apply Run.exists_of_foldlM
    decide +kernel
  obtain ⟨s, hreached, hprofiler, hnone, hends⟩ := hresult
  obtain ⟨s', hstep, -⟩ := Option.map_eq_some_iff.mp hends
  have hshares := hall 1 usersTask preemptedRequest s (.profile true) s' hreached hstep _ hprofiler
  unfold State.Shares at hshares
  rw [hnone] at hshares
  cases hshares

end SkyWalking.ProfileThread
