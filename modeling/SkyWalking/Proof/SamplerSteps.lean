import SkyWalking.Proof.SlotsLemmas
import SkyWalking.Profile.Sampler

/-!
# The steps of the application threads and of the profile thread

One constructor for each thing that a step can do, with the facts it was guarded by. Everything that is
proved about runs looks at these and not at the step functions.
-/

namespace SkyWalking.ProfileThread

/-- The next operation of `stop_tracing_profile`, other than the update of the status. -/
def Searching : ProfileTaskExecutionContext.Stopping → Prop
  | .idle | .cleared _ => False
  | .scanning _ _ | .found _ _ | .stopped => True

inductive Transition (maxParallel : Nat) (task : ProfileTask) (s : State) : Action → State → Prop where
  | getContext (thread : Nat) :
      Transition maxParallel task s (.app (.getContext thread))
        { s with contexts := s.contexts.alloc { thread := thread } }
  | assignNone (context : Nat) (op : String) (inherits : Bool) :
      s.Ready context → (s.contexts.get context).profileStatus = none →
      Transition maxParallel task s (.app (.newEntrySpan context op inherits)) (s.assignNone context)
  | addProfiling (context : Nat) (op : String) (inherits assigns : Bool)
      (slots : ProfileTaskExecutionContext.State) :
      s.Ready context →
      (if assigns then (s.contexts.get context).profileStatus = none else
        ∃ reference, (s.contexts.get context).profileStatus = some reference ∧
          s.references.get reference = .none) →
      ProfileTaskExecutionContext.Transition maxParallel s.slots (.attemptProfiling context op) slots →
      Transition maxParallel task s (.app (.newEntrySpan context op inherits))
        ({ s with slots := slots }.setCall context (.attempting s.slots.attempts.length assigns))
  | reuse (context : Nat) (op : String) (inherits : Bool) :
      Transition maxParallel task s (.app (.newEntrySpan context op inherits)) s
  | attempt (context attempt : Nat) (assigns : Bool) (slots : ProfileTaskExecutionContext.State) :
      (s.contexts.get context).call = .attempting attempt assigns →
      ProfileTaskExecutionContext.Step maxParallel task s.slots (.attemptStep attempt) slots →
      { s with slots := slots }.progress attempt ≠ some (.scanning 0) →
      Transition maxParallel task s (.app (.attempt context)) { s with slots := slots }
  | construct (context attempt : Nat) (assigns : Bool) (slots : ProfileTaskExecutionContext.State) :
      (s.contexts.get context).call = .attempting attempt assigns →
      ProfileTaskExecutionContext.Step maxParallel task s.slots (.attemptStep attempt) slots →
      { s with slots := slots }.progress attempt = some (.scanning 0) →
      Transition maxParallel task s (.app (.attempt context))
        ({ s with slots := slots }.construct context attempt)
  | settleTook (context attempt idx : Nat) :
      (s.contexts.get context).call = .attempting attempt true →
      s.progress attempt = some (.took idx) →
      Transition maxParallel task s (.app (.settle context))
        (s.setProfileStatus context (s.profilers.get attempt).profileStatus)
  | settleNone (context attempt : Nat) :
      (s.contexts.get context).call = .attempting attempt true →
      s.progress attempt = some .refused ∨ s.progress attempt = some .exhausted →
      Transition maxParallel task s (.app (.settle context)) (s.assignNone context)
  | recheckTook (context attempt idx : Nat) :
      (s.contexts.get context).call = .attempting attempt false →
      s.progress attempt = some (.took idx) →
      Transition maxParallel task s (.app (.settle context))
        (s.setCall context
          (.updating (s.references.get (s.profilers.get attempt).profileStatus)))
  | recheckNone (context attempt : Nat) :
      (s.contexts.get context).call = .attempting attempt false →
      s.progress attempt = some .refused ∨ s.progress attempt = some .exhausted →
      Transition maxParallel task s (.app (.settle context)) (s.setCall context (.updating .none))
  | update (context reference : Nat) (status : ProfileStatus) :
      (s.contexts.get context).call = .updating status →
      (s.contexts.get context).profileStatus = some reference →
      Transition maxParallel task s (.app (.settle context))
        ({ s with references := s.references.set reference status }.setCall context .idle)
  | startSpan (context : Nat) :
      Transition maxParallel task s (.app (.startSpan context))
        { s with contexts := s.contexts.modify context fun c => { c with nspans := c.nspans + 1 } }
  | stopSpan (context : Nat) :
      Transition maxParallel task s (.app (.stopSpan context)) (s.stopSpan context)
  | endThread (thread : Nat) :
      Transition maxParallel task s (.app (.endThread thread))
        { s with endedThreads := s.endedThreads ++ [thread] }
  | finish (elapsed : Bool) :
      s.loop = .sleeping → s.stopEvent = true →
      Transition maxParallel task s (.profile elapsed) { s with loop := .ended }
  | beginPass (elapsed : Bool) :
      s.loop = .sleeping →
      Transition maxParallel task s (.profile elapsed)
        { s with loop := .passing 0, archivedBefore := s.archived }
  | endPass (elapsed : Bool) (idx : Nat) :
      s.loop = .passing idx → s.slots.profilingSegmentSlots[idx]? = none →
      Transition maxParallel task s (.profile elapsed) { s with loop := .sleeping }
  | skip (elapsed : Bool) (idx : Nat) :
      s.loop = .passing idx → s.slots.profilingSegmentSlots[idx]? = some none →
      Transition maxParallel task s (.profile elapsed) { s with loop := .passing (idx + 1) }
  | look (elapsed : Bool) (idx : Nat) (profiler : Profiler) :
      s.loop = .passing idx → s.slots.profilingSegmentSlots[idx]? = some (some profiler) →
      Transition maxParallel task s (.profile elapsed) { s with loop := .looking idx profiler }
  | start (idx reference : Nat) (profiler : Profiler) :
      s.loop = .looking idx profiler → s.status profiler = .pending →
      (s.contexts.get profiler.traceContext).profileStatus = some reference →
      Transition maxParallel task s (.profile true)
        { s with references := s.references.set reference .profiling, loop := .passing (idx + 1) }
  | crash (idx : Nat) (profiler : Profiler) :
      s.loop = .looking idx profiler → s.status profiler = .pending →
      (s.contexts.get profiler.traceContext).profileStatus = none →
      Transition maxParallel task s (.profile true) s.die
  | wait (idx : Nat) (profiler : Profiler) :
      s.loop = .looking idx profiler →
      Transition maxParallel task s (.profile false) { s with loop := .passing (idx + 1) }
  | see (elapsed : Bool) (idx : Nat) (profiler : Profiler) :
      s.loop = .looking idx profiler →
      Transition maxParallel task s (.profile elapsed) { s with loop := .looked idx profiler }
  | leave (elapsed : Bool) (idx : Nat) (profiler : Profiler) :
      s.loop = .looked idx profiler →
      Transition maxParallel task s (.profile elapsed) { s with loop := .passing (idx + 1) }
  | dump (elapsed : Bool) (idx : Nat) (profiler : Profiler) :
      s.loop = .looked idx profiler → s.status profiler = .profiling →
      Transition maxParallel task s (.profile elapsed) { s with loop := .dumping idx profiler }
  | alive (elapsed : Bool) (idx : Nat) (profiler : Profiler) :
      s.loop = .dumping idx profiler →
      Transition maxParallel task s (.profile elapsed) { s with loop := .framing idx profiler }
  | frame (elapsed : Bool) (idx : Nat) (profiler : Profiler) :
      s.loop = .framing idx profiler →
      Transition maxParallel task s (.profile elapsed) { s with loop := .counting idx profiler }
  | fail (elapsed : Bool) (idx : Nat) (profiler : Profiler) :
      s.loop = .dumping idx profiler ∨ s.loop = .framing idx profiler →
      Transition maxParallel task s (.profile elapsed)
        { s with
          slots := { s.slots with stopping := .scanning profiler.traceContext 0 }
          loop := .stopping idx profiler }
  | accept (elapsed : Bool) (idx : Nat) (profiler : Profiler) :
      s.loop = .counting idx profiler → (s.profilers.get profiler.attempt).dumpSequence = 0 →
      s.slots.totalStartedProfilingCnt + 1 ≤ task.maxSamplingCount →
      Transition maxParallel task s (.profile elapsed)
        { s with
          slots := { s.slots with
            totalStartedProfilingCnt := s.slots.totalStartedProfilingCnt + 1 }
          loop := .building idx profiler }
  | refuse (elapsed : Bool) (idx : Nat) (profiler : Profiler) :
      s.loop = .counting idx profiler → (s.profilers.get profiler.attempt).dumpSequence = 0 →
      task.maxSamplingCount < s.slots.totalStartedProfilingCnt + 1 →
      Transition maxParallel task s (.profile elapsed)
        { s with
          slots := { s.slots with
            totalStartedProfilingCnt := s.slots.totalStartedProfilingCnt + 1
            stopping := .scanning profiler.traceContext 0 }
          loop := .stopping idx profiler }
  | again (elapsed : Bool) (idx : Nat) (profiler : Profiler) :
      s.loop = .counting idx profiler → (s.profilers.get profiler.attempt).dumpSequence ≠ 0 →
      Transition maxParallel task s (.profile elapsed) { s with loop := .building idx profiler }
  | build (elapsed : Bool) (idx : Nat) (profiler : Profiler) :
      s.loop = .building idx profiler →
      Transition maxParallel task s (.profile elapsed) (s.buildSnapshot idx profiler)
  | stopped (elapsed : Bool) (idx : Nat) (profiler : Profiler) :
      s.loop = .stopping idx profiler → s.slots.stopping = .idle →
      Transition maxParallel task s (.profile elapsed) { s with loop := .passing (idx + 1) }
  | search (elapsed : Bool) (idx : Nat) (profiler : Profiler)
      (slots : ProfileTaskExecutionContext.State) :
      s.loop = .stopping idx profiler → Searching s.slots.stopping →
      ProfileTaskExecutionContext.Transition maxParallel s.slots .stopStep slots →
      Transition maxParallel task s (.profile elapsed) { s with slots := slots }
  | stop (elapsed : Bool) (idx reference : Nat) (profiler stopped : Profiler) :
      s.loop = .stopping idx profiler → s.slots.stopping = .cleared stopped →
      (s.contexts.get stopped.traceContext).profileStatus = some reference →
      Transition maxParallel task s (.profile elapsed)
        { s with
          references := s.references.set reference .stopped
          slots := { s.slots with stopping := .stopped } }
  | stopCrash (elapsed : Bool) (idx : Nat) (profiler stopped : Profiler) :
      s.loop = .stopping idx profiler → s.slots.stopping = .cleared stopped →
      (s.contexts.get stopped.traceContext).profileStatus = none →
      Transition maxParallel task s (.profile elapsed) s.die
  | stopProfiling :
      Transition maxParallel task s .stopProfiling { s with stopEvent := true }

section Inversion

variable {maxParallel : Nat} {task : ProfileTask} {s s' : State}

theorem transition_of_addProfiling {context : Nat} {op : String} {inherits assigns : Bool}
    (hready : s.Ready context)
    (hstatus : if assigns then (s.contexts.get context).profileStatus = none else
      ∃ reference, (s.contexts.get context).profileStatus = some reference ∧
        s.references.get reference = .none)
    (hstep : s.addProfiling maxParallel task context op assigns = some s') :
    Transition maxParallel task s (.app (.newEntrySpan context op inherits)) s' := by
  obtain ⟨s₁, hslots, rfl⟩ := Option.map_eq_some_iff.mp hstep
  obtain ⟨slots, hslotStep, rfl⟩ := Option.map_eq_some_iff.mp hslots
  exact .addProfiling context op inherits assigns slots hready hstatus
    (ProfileTaskExecutionContext.transition_of_step hslotStep)

theorem transition_of_newEntrySpan {context : Nat} {op : String} {inherits : Bool}
    (hready : s.Ready context)
    (hstep : s.newEntrySpan maxParallel task context op inherits = some s') :
    Transition maxParallel task s (.app (.newEntrySpan context op inherits)) s' := by
  unfold State.newEntrySpan at hstep
  cases hstatus : (s.contexts.get context).profileStatus with
  | none =>
      simp only [hstatus] at hstep
      split at hstep
      · obtain rfl := Option.some.inj hstep
        exact .assignNone context op inherits hready hstatus
      · exact transition_of_addProfiling hready (by simpa using hstatus) hstep
  | some reference =>
      simp only [hstatus] at hstep
      split at hstep
      · next hrecheck =>
          refine transition_of_addProfiling hready ?_ hstep
          rw [if_neg (by simp)]
          refine ⟨reference, hstatus, ?_⟩
          simp only [Bool.and_eq_true, beq_iff_eq] at hrecheck
          exact hrecheck.2
      · obtain rfl := Option.some.inj hstep
        exact .reuse context op inherits

theorem transition_of_attempt {context : Nat}
    (hstep : s.attempt maxParallel task context = some s') :
    Transition maxParallel task s (.app (.attempt context)) s' := by
  unfold State.attempt at hstep
  cases hcall : (s.contexts.get context).call with
  | idle => simp [hcall] at hstep
  | updating status => simp [hcall] at hstep
  | attempting attempt assigns =>
      simp only [hcall] at hstep
      obtain ⟨s₁, hslots, hnext⟩ := Option.map_eq_some_iff.mp hstep
      obtain ⟨slots, hslotStep, rfl⟩ := Option.map_eq_some_iff.mp hslots
      split at hnext
      · next hfirst =>
          rw [← hnext]
          exact .construct context attempt assigns slots hcall hslotStep hfirst
      · next hother =>
          rw [← hnext]
          exact .attempt context attempt assigns slots hcall hslotStep hother

theorem transition_of_settle {context : Nat} (hstep : s.settle context = some s') :
    Transition maxParallel task s (.app (.settle context)) s' := by
  unfold State.settle at hstep
  cases hcall : (s.contexts.get context).call with
  | idle => simp [hcall] at hstep
  | attempting attempt assigns =>
      simp only [hcall] at hstep
      have hnone : (s.progress attempt = some .refused ∨ s.progress attempt = some .exhausted) →
          (if assigns = true then some (s.assignNone context)
            else some (s.setCall context (.updating .none))) = some s' →
          Transition maxParallel task s (.app (.settle context)) s' := by
        intro hprogress hresult
        cases assigns with
        | true =>
            obtain rfl := Option.some.inj hresult
            exact .settleNone context attempt hcall hprogress
        | false =>
            obtain rfl := Option.some.inj hresult
            exact .recheckNone context attempt hcall hprogress
      split at hstep
      · next idx hprogress =>
          cases assigns with
          | true =>
              obtain rfl := Option.some.inj hstep
              exact .settleTook context attempt idx hcall hprogress
          | false =>
              obtain rfl := Option.some.inj hstep
              exact .recheckTook context attempt idx hcall hprogress
      · next hprogress => exact hnone (.inl hprogress) hstep
      · next hprogress => exact hnone (.inr hprogress) hstep
      · cases hstep
  | updating status =>
      simp only [hcall] at hstep
      cases hstatus : (s.contexts.get context).profileStatus with
      | none => simp [hstatus] at hstep
      | some reference =>
          simp only [hstatus] at hstep
          obtain rfl := Option.some.inj hstep
          exact .update context reference status hcall hstatus

theorem transition_of_appStep {action : AppAction}
    (hstep : s.appStep maxParallel task action = some s') :
    Transition maxParallel task s (.app action) s' := by
  unfold State.appStep at hstep
  cases action with
  | getContext thread =>
      simp only at hstep
      split at hstep
      · obtain rfl := Option.some.inj hstep
        exact .getContext thread
      · cases hstep
  | newEntrySpan context op inherits =>
      simp only at hstep
      split at hstep
      · next hready => exact transition_of_newEntrySpan hready hstep
      · cases hstep
  | attempt context => exact transition_of_attempt hstep
  | settle context => exact transition_of_settle hstep
  | startSpan context =>
      simp only at hstep
      split at hstep
      · obtain rfl := Option.some.inj hstep
        exact .startSpan context
      · cases hstep
  | stopSpan context =>
      simp only at hstep
      split at hstep
      · obtain rfl := Option.some.inj hstep
        exact .stopSpan context
      · cases hstep
  | endThread thread =>
      simp only at hstep
      split at hstep
      · obtain rfl := Option.some.inj hstep
        exact .endThread thread
      · cases hstep

theorem giveUp_eq_some {idx : Nat} {profiler : Profiler}
    (hstep : s.giveUp maxParallel task idx profiler = some s') :
    s' = { s with
      slots := { s.slots with stopping := .scanning profiler.traceContext 0 }
      loop := .stopping idx profiler } := by
  obtain ⟨slots, hslots, rfl⟩ := Option.map_eq_some_iff.mp hstep
  cases ProfileTaskExecutionContext.transition_of_step hslots with
  | search _ _ => rfl

theorem transition_of_looking {idx : Nat} {profiler : Profiler} (hloop : s.loop = .looking idx profiler)
    {elapsed : Bool} (hstep : s.profileStep maxParallel task elapsed = some s') :
    Transition maxParallel task s (.profile elapsed) s' := by
  simp only [State.profileStep, hloop] at hstep
  by_cases hpending : s.status profiler = .pending
  · rw [if_pos hpending] at hstep
    obtain rfl := Option.some.inj hstep
    unfold State.startProfilingIfNeed
    cases elapsed with
    | false => exact .wait idx profiler hloop
    | true =>
        cases hstatus : (s.contexts.get profiler.traceContext).profileStatus with
        | none => exact .crash idx profiler hloop hpending hstatus
        | some reference => exact .start idx reference profiler hloop hpending hstatus
  · rw [if_neg hpending] at hstep
    obtain rfl := Option.some.inj hstep
    exact .see elapsed idx profiler hloop

theorem transition_of_counting {idx : Nat} {profiler : Profiler}
    (hloop : s.loop = .counting idx profiler) {elapsed : Bool}
    (hstep : s.profileStep maxParallel task elapsed = some s') :
    Transition maxParallel task s (.profile elapsed) s' := by
  simp only [State.profileStep, hloop] at hstep
  by_cases hfirst : (s.profilers.get profiler.attempt).dumpSequence = 0
  · rw [if_pos hfirst] at hstep
    cases hslots : s.onSlots maxParallel task .isStartProfileable with
    | none => simp [hslots] at hstep
    | some s₁ =>
        simp only [hslots] at hstep
        obtain ⟨slots, hslotStep, rfl⟩ := Option.map_eq_some_iff.mp hslots
        cases ProfileTaskExecutionContext.transition_of_step hslotStep with
        | start =>
            split at hstep
            · next hlimit =>
                obtain rfl := Option.some.inj hstep
                exact .accept elapsed idx profiler hloop hfirst hlimit
            · next hlimit =>
                obtain rfl := giveUp_eq_some hstep
                exact .refuse elapsed idx profiler hloop hfirst (not_le.mp hlimit)
  · rw [if_neg hfirst] at hstep
    obtain rfl := Option.some.inj hstep
    exact .again elapsed idx profiler hloop hfirst

theorem transition_of_stopping {idx : Nat} {profiler : Profiler}
    (hloop : s.loop = .stopping idx profiler) {elapsed : Bool}
    (hstep : s.profileStep maxParallel task elapsed = some s') :
    Transition maxParallel task s (.profile elapsed) s' := by
  replace hstep : s.stopStep maxParallel task idx = some s' := by
    simpa only [State.profileStep, hloop] using hstep
  unfold State.stopStep at hstep
  have hsearch : Searching s.slots.stopping →
      s.onSlots maxParallel task .stopStep = some s' →
      Transition maxParallel task s (.profile elapsed) s' := by
    intro hsearching hslots
    obtain ⟨slots, hslotStep, rfl⟩ := Option.map_eq_some_iff.mp hslots
    exact .search elapsed idx profiler slots hloop hsearching
      (ProfileTaskExecutionContext.transition_of_step hslotStep)
  cases hstopping : s.slots.stopping with
  | idle =>
      simp only [hstopping] at hstep
      obtain rfl := Option.some.inj hstep
      exact .stopped elapsed idx profiler hloop hstopping
  | cleared stopped =>
      simp only [hstopping] at hstep
      cases hstatus : (s.contexts.get stopped.traceContext).profileStatus with
      | none =>
          simp only [hstatus] at hstep
          obtain rfl := Option.some.inj hstep
          exact .stopCrash elapsed idx profiler stopped hloop hstopping hstatus
      | some reference =>
          simp only [hstatus] at hstep
          obtain ⟨slots, hslotStep, rfl⟩ := Option.map_eq_some_iff.mp hstep
          have hslots : slots = { s.slots with stopping := .stopped } := by
            simp only [ProfileTaskExecutionContext.step,
              ProfileTaskExecutionContext.State.stopStep, hstopping] at hslotStep
            exact (Option.some.inj hslotStep).symm
          subst hslots
          exact .stop elapsed idx reference profiler stopped hloop hstopping hstatus
  | scanning traceContext position =>
      simp only [hstopping] at hstep
      exact hsearch (by rw [hstopping]; trivial) hstep
  | found position stopped =>
      simp only [hstopping] at hstep
      exact hsearch (by rw [hstopping]; trivial) hstep
  | stopped =>
      simp only [hstopping] at hstep
      exact hsearch (by rw [hstopping]; trivial) hstep

theorem transition_of_profileStep {elapsed : Bool}
    (hstep : s.profileStep maxParallel task elapsed = some s') :
    Transition maxParallel task s (.profile elapsed) s' := by
  cases hloop : s.loop with
  | sleeping =>
      simp only [State.profileStep, hloop] at hstep
      split at hstep
      · next hstop =>
          obtain rfl := Option.some.inj hstep
          exact .finish elapsed hloop hstop
      · obtain rfl := Option.some.inj hstep
        exact .beginPass elapsed hloop
  | passing idx =>
      simp only [State.profileStep, hloop] at hstep
      split at hstep
      · next hslot =>
          obtain rfl := Option.some.inj hstep
          exact .endPass elapsed idx hloop hslot
      · next hslot =>
          obtain rfl := Option.some.inj hstep
          exact .skip elapsed idx hloop hslot
      · next profiler hslot =>
          obtain rfl := Option.some.inj hstep
          exact .look elapsed idx profiler hloop hslot
  | looking idx profiler => exact transition_of_looking hloop hstep
  | looked idx profiler =>
      simp only [State.profileStep, hloop] at hstep
      split at hstep
      · next hprofiling =>
          obtain rfl := Option.some.inj hstep
          exact .dump elapsed idx profiler hloop hprofiling
      · obtain rfl := Option.some.inj hstep
        exact .leave elapsed idx profiler hloop
  | dumping idx profiler =>
      simp only [State.profileStep, hloop] at hstep
      split at hstep
      · obtain rfl := Option.some.inj hstep
        exact .alive elapsed idx profiler hloop
      · obtain rfl := giveUp_eq_some hstep
        exact .fail elapsed idx profiler (.inl hloop)
  | framing idx profiler =>
      simp only [State.profileStep, hloop] at hstep
      split at hstep
      · obtain rfl := Option.some.inj hstep
        exact .frame elapsed idx profiler hloop
      · obtain rfl := giveUp_eq_some hstep
        exact .fail elapsed idx profiler (.inr hloop)
  | counting idx profiler => exact transition_of_counting hloop hstep
  | building idx profiler =>
      simp only [State.profileStep, hloop] at hstep
      obtain rfl := Option.some.inj hstep
      exact .build elapsed idx profiler hloop
  | stopping idx profiler => exact transition_of_stopping hloop hstep
  | ended => simp [State.profileStep, hloop] at hstep

theorem transition_of_step {action : Action} (hstep : Step maxParallel task s action s') :
    Transition maxParallel task s action s' := by
  unfold Step step at hstep
  cases action with
  | app action => exact transition_of_appStep hstep
  | profile elapsed => exact transition_of_profileStep hstep
  | stopProfiling =>
      obtain rfl := Option.some.inj hstep
      exact .stopProfiling

end Inversion

end SkyWalking.ProfileThread
