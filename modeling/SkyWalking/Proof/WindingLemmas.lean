import SkyWalking.Profile.Counting
import SkyWalking.Proof.SamplerLemmas
import SkyWalking.Proof.SamplerSteps

/-!
# A stopped task winds up

The event that stops a task is read between two passes only. So the pass that is under way goes on to the
last slot; how far it is tells how many steps and snapshots are left.
-/

namespace SkyWalking.ProfileThread

variable {maxParallel : Nat} {task : ProfileTask} {s s' : State}

/-- What the profile thread goes by is not touched. -/
structure Aside (s s' : State) : Prop where
  loop : s'.loop = s.loop
  stopping : s'.slots.stopping = s.slots.stopping
  snapshots : s'.snapshots = s.snapshots
  stopEvent : s'.stopEvent = s.stopEvent

theorem aside_of_appStep {action : AppAction} (hstep : s.appStep maxParallel task action = some s') :
    Aside s s' := by
  have hattempt : ∀ {index : Nat} {slots : ProfileTaskExecutionContext.State},
      ProfileTaskExecutionContext.Step maxParallel task s.slots (.attemptStep index) slots →
        slots.stopping = s.slots.stopping := fun h => (attemptFrame_of_step h).stopping
  cases transition_of_appStep hstep with
  | addProfiling _ _ _ _ slots _ _ hslots =>
      cases hslots with
      | call => exact ⟨rfl, rfl, rfl, rfl⟩
  | attempt _ _ _ slots _ hslots => exact ⟨rfl, hattempt hslots, rfl, rfl⟩
  | construct context attempt _ slots _ hslots =>
      unfold State.construct
      split
      · exact ⟨rfl, hattempt hslots, rfl, rfl⟩
      · exact ⟨rfl, hattempt hslots, rfl, rfl⟩
  | _ => exact ⟨rfl, rfl, rfl, rfl⟩

/-- The slot that the pass is at. -/
def Loop.slot : Loop → Option Nat
  | .looking idx _ | .looked idx _ | .dumping idx _ | .framing idx _ | .counting idx _
  | .building idx _ | .stopping idx _ => some idx
  | .sleeping | .passing _ | .ended => none

/-- Nothing is stopped at another point of the loop than its own, and there is a slot wherever the pass
is at one. -/
structure Steady (maxParallel : Nat) (s : State) : Prop where
  idle : s.loop ≠ .ended → (∀ idx profiler, s.loop ≠ .stopping idx profiler) → s.slots.stopping = .idle
  slot : ∀ idx ∈ s.loop.slot, idx < maxParallel

theorem Steady.init (maxParallel : Nat) : Steady maxParallel (.init maxParallel) where
  idle _ _ := rfl
  slot _ hidx := by cases hidx

theorem Steady.aside (h : Steady maxParallel s) (haside : Aside s s') : Steady maxParallel s' where
  idle hended hstopping := by
    rw [haside.stopping]
    rw [haside.loop] at hended hstopping
    exact h.idle hended hstopping
  slot idx hidx := by
    rw [haside.loop] at hidx
    exact h.slot idx hidx

theorem Steady.profileStep (h : Steady maxParallel s)
    (hlength : s.slots.profilingSegmentSlots.length = maxParallel) {elapsed : Bool}
    (hstep : s.profileStep maxParallel task elapsed = some s') : Steady maxParallel s' := by
  have hbound : ∀ {idx : Nat} {profiler : Profiler},
      s.slots.profilingSegmentSlots[idx]? = some (some profiler) → idx < maxParallel := by
    intro idx profiler hslot
    rw [← hlength]
    exact (List.getElem?_eq_some_iff.mp hslot).1
  have hidle : ∀ {loop : Loop}, s.loop = loop → loop ≠ .ended →
      (∀ idx profiler, loop ≠ .stopping idx profiler) → s.slots.stopping = .idle := by
    rintro _ rfl hended hstopping
    exact h.idle hended hstopping
  have hslot : ∀ {loop : Loop} {idx : Nat}, s.loop = loop → loop.slot = some idx → idx < maxParallel := by
    rintro _ idx rfl hidx
    exact h.slot idx hidx
  have hat : ∀ {idx : Nat}, idx < maxParallel → ∀ other ∈ some idx, other < maxParallel := by
    intro idx hlt other hother
    obtain rfl := Option.some.inj hother
    exact hlt
  have hnone : ∀ other ∈ (none : Option Nat), other < maxParallel := fun other hother => by cases hother
  cases transition_of_profileStep hstep with
  | finish => exact ⟨fun hended => absurd rfl hended, hnone⟩
  | beginPass _ hloop => exact ⟨fun _ _ => hidle hloop nofun nofun, hnone⟩
  | endPass _ idx hloop => exact ⟨fun _ _ => hidle hloop nofun nofun, hnone⟩
  | skip _ idx hloop => exact ⟨fun _ _ => hidle hloop nofun nofun, hnone⟩
  | look _ idx profiler hloop hheld =>
      exact ⟨fun _ _ => hidle hloop nofun nofun, hat (hbound hheld)⟩
  | start idx reference profiler hloop => exact ⟨fun _ _ => hidle hloop nofun nofun, hnone⟩
  | crash => exact ⟨fun hended => absurd rfl hended, hnone⟩
  | wait idx profiler hloop => exact ⟨fun _ _ => hidle hloop nofun nofun, hnone⟩
  | see _ idx profiler hloop => exact ⟨fun _ _ => hidle hloop nofun nofun, hat (hslot hloop rfl)⟩
  | leave _ idx profiler hloop => exact ⟨fun _ _ => hidle hloop nofun nofun, hnone⟩
  | dump _ idx profiler hloop => exact ⟨fun _ _ => hidle hloop nofun nofun, hat (hslot hloop rfl)⟩
  | alive _ idx profiler hloop => exact ⟨fun _ _ => hidle hloop nofun nofun, hat (hslot hloop rfl)⟩
  | frame _ idx profiler hloop => exact ⟨fun _ _ => hidle hloop nofun nofun, hat (hslot hloop rfl)⟩
  | fail _ idx profiler hloop =>
      refine ⟨fun _ hstopping => absurd rfl (hstopping idx profiler), hat ?_⟩
      obtain hloop | hloop := hloop
      · exact hslot hloop rfl
      · exact hslot hloop rfl
  | accept _ idx profiler hloop => exact ⟨fun _ _ => hidle hloop nofun nofun, hat (hslot hloop rfl)⟩
  | refuse _ idx profiler hloop =>
      exact ⟨fun _ hstopping => absurd rfl (hstopping idx profiler), hat (hslot hloop rfl)⟩
  | again _ idx profiler hloop => exact ⟨fun _ _ => hidle hloop nofun nofun, hat (hslot hloop rfl)⟩
  | build _ idx profiler hloop => exact ⟨fun _ _ => hidle hloop nofun nofun, hnone⟩
  | stopped _ idx profiler hloop hstopping => exact ⟨fun _ _ => hstopping, hnone⟩
  | search _ idx profiler slots hloop =>
      refine ⟨fun _ hstopping => absurd hloop (hstopping idx profiler), ?_⟩
      exact h.slot
  | stop _ idx reference profiler stopped hloop =>
      refine ⟨fun _ hstopping => absurd hloop (hstopping idx profiler), ?_⟩
      exact h.slot
  | stopCrash => exact ⟨fun hended => absurd rfl hended, hnone⟩

theorem Steady.step {action : Action} (h : Steady maxParallel s)
    (hlength : s.slots.profilingSegmentSlots.length = maxParallel)
    (hstep : Step maxParallel task s action s') : Steady maxParallel s' := by
  cases action with
  | app action => exact h.aside (aside_of_appStep hstep)
  | profile elapsed => exact h.profileStep hlength hstep
  | stopProfiling =>
      obtain rfl := Option.some.inj hstep
      exact ⟨h.idle, h.slot⟩

theorem steady_of_run {actions : List Action}
    (hrun : Run (Step maxParallel task) (.init maxParallel) actions s) : Steady maxParallel s := by
  induction hrun with
  | nil => exact Steady.init maxParallel
  | snoc hbefore hstep ih => exact ih.step (slots_balanced_of_run hbefore).length hstep

/-- The profile thread is never blocked. -/
theorem Steady.goesOn (h : Steady maxParallel s) (hended : s.loop ≠ .ended) (elapsed : Bool) :
    (s.profileStep maxParallel task elapsed).isSome := by
  have hgiveUp : ∀ {s₁ : State} (idx : Nat) (profiler : Profiler), s₁.slots.stopping = .idle →
      (s₁.giveUp maxParallel task idx profiler).isSome := by
    intro s₁ idx profiler hidle
    simp [State.giveUp, State.onSlots, ProfileTaskExecutionContext.step, hidle]
  have hidle := h.idle hended
  unfold State.profileStep
  cases hloop : s.loop with
  | sleeping =>
      dsimp only
      split <;> rfl
  | passing idx =>
      dsimp only
      split <;> rfl
  | looking idx profiler =>
      dsimp only
      split <;> rfl
  | looked idx profiler =>
      dsimp only
      split <;> rfl
  | dumping idx profiler | framing idx profiler =>
      dsimp only
      split
      · rfl
      · exact hgiveUp idx profiler (hidle (by simp [hloop]))
  | counting idx profiler =>
      have hnow : s.slots.stopping = .idle := hidle (by simp [hloop])
      dsimp only
      split
      · simp only [State.onSlots, ProfileTaskExecutionContext.step, hnow, if_true, Option.map_some]
        split
        · rfl
        · exact hgiveUp idx profiler rfl
      · rfl
  | building idx profiler => rfl
  | stopping idx profiler =>
      dsimp only
      unfold State.stopStep
      cases hstopping : s.slots.stopping with
      | idle => rfl
      | scanning traceContext position =>
          simp only [State.onSlots, ProfileTaskExecutionContext.step,
            ProfileTaskExecutionContext.State.stopStep, hstopping, Option.isSome_map]
          split
          · rfl
          · rfl
          · split <;> rfl
      | found position stopped =>
          simp [State.onSlots, ProfileTaskExecutionContext.step,
            ProfileTaskExecutionContext.State.stopStep, hstopping]
      | cleared stopped =>
          dsimp only
          split
          · rfl
          · simp [State.onSlots, ProfileTaskExecutionContext.step,
              ProfileTaskExecutionContext.State.stopStep, hstopping]
      | stopped =>
          simp [State.onSlots, ProfileTaskExecutionContext.step,
            ProfileTaskExecutionContext.State.stopStep, hstopping]
  | ended => exact absurd hloop hended

/-- The steps of `stop_tracing_profile` that are left at most, and the one behind it. -/
def stepsToStop (maxParallel : Nat) : ProfileTaskExecutionContext.Stopping → Nat
  | .idle => 1
  | .stopped => 2
  | .cleared _ => 3
  | .found _ _ => 4
  | .scanning _ idx => 4 + (maxParallel - idx)

/-- The steps that are left at most for the slots from `idx` on. -/
def stepsFrom (maxParallel idx : Nat) : Nat := (maxParallel - idx) * (maxParallel + 10) + 2

/-- The steps that are left at most once the task has been stopped. -/
def State.stepsLeft (maxParallel : Nat) (s : State) : Nat :=
  match s.loop with
  | .ended => 0
  | .sleeping => 1
  | .passing idx => stepsFrom maxParallel idx
  | .looking idx _ => stepsFrom maxParallel (idx + 1) + (maxParallel + 9)
  | .looked idx _ => stepsFrom maxParallel (idx + 1) + (maxParallel + 8)
  | .dumping idx _ => stepsFrom maxParallel (idx + 1) + (maxParallel + 7)
  | .framing idx _ => stepsFrom maxParallel (idx + 1) + (maxParallel + 6)
  | .counting idx _ => stepsFrom maxParallel (idx + 1) + (maxParallel + 5)
  | .building idx _ => stepsFrom maxParallel (idx + 1) + 1
  | .stopping idx _ => stepsFrom maxParallel (idx + 1) + stepsToStop maxParallel s.slots.stopping

theorem stepsFrom_of_lt {idx : Nat} (hlt : idx < maxParallel) :
    stepsFrom maxParallel idx = stepsFrom maxParallel (idx + 1) + (maxParallel + 10) := by
  unfold stepsFrom
  obtain ⟨rest, hrest⟩ : ∃ rest, maxParallel - idx = rest + 1 := ⟨maxParallel - idx - 1, by omega⟩
  rw [hrest, show maxParallel - (idx + 1) = rest by omega, Nat.succ_mul]
  omega

theorem stepsFrom_le (maxParallel idx : Nat) :
    stepsFrom maxParallel idx ≤ maxParallel * (maxParallel + 10) + 2 := by
  unfold stepsFrom
  gcongr
  omega

theorem stepsToStop_lt {t t' : ProfileTaskExecutionContext.State}
    (hlength : t.profilingSegmentSlots.length = maxParallel) (hstep : t.stopStep = some t') :
    stepsToStop maxParallel t'.stopping < stepsToStop maxParallel t.stopping := by
  have hbound : ∀ {idx : Nat} {slot : Option Profiler},
      t.profilingSegmentSlots[idx]? = some slot → idx < maxParallel := by
    intro idx slot hslot
    rw [← hlength]
    exact (List.getElem?_eq_some_iff.mp hslot).1
  unfold ProfileTaskExecutionContext.State.stopStep at hstep
  cases hstopping : t.stopping with
  | idle => simp [hstopping] at hstep
  | scanning traceContext idx =>
      simp only [hstopping] at hstep
      split at hstep
      · obtain rfl := Option.some.inj hstep
        simp only [stepsToStop]
        omega
      · next hslot =>
          obtain rfl := Option.some.inj hstep
          have hlt := hbound hslot
          simp only [stepsToStop]
          omega
      · next profiler hslot =>
          have hlt := hbound hslot
          split at hstep
          · obtain rfl := Option.some.inj hstep
            simp only [stepsToStop]
            omega
          · obtain rfl := Option.some.inj hstep
            simp only [stepsToStop]
            omega
  | found idx profiler | cleared profiler | stopped =>
      simp only [hstopping] at hstep
      obtain rfl := Option.some.inj hstep
      simp [stepsToStop]

theorem stepsLeft_startProfilingIfNeed (idx : Nat) (profiler : Profiler) (elapsed : Bool) :
    (s.startProfilingIfNeed idx profiler elapsed).stepsLeft maxParallel ≤ stepsFrom maxParallel (idx + 1) := by
  unfold State.startProfilingIfNeed
  split
  · split
    · exact Nat.zero_le _
    · exact Nat.le_refl _
  · exact Nat.le_refl _

theorem stepsLeft_giveUp {idx : Nat} {profiler : Profiler}
    (hstep : s.giveUp maxParallel task idx profiler = some s') :
    s'.stepsLeft maxParallel = stepsFrom maxParallel (idx + 1) + (maxParallel + 4) := by
  obtain rfl := giveUp_eq_some hstep
  simp only [State.stepsLeft, stepsToStop]
  omega

theorem stepsLeft_stopStep {idx : Nat} {profiler : Profiler} (hloop : s.loop = .stopping idx profiler)
    (hlength : s.slots.profilingSegmentSlots.length = maxParallel)
    (hstep : s.stopStep maxParallel task idx = some s') :
    s'.stepsLeft maxParallel < s.stepsLeft maxParallel := by
  have hslots : ∀ {s₁ : State}, s₁.loop = s.loop → s₁.slots = s.slots →
      s₁.onSlots maxParallel task .stopStep = some s' →
      s'.stepsLeft maxParallel < s.stepsLeft maxParallel := by
    intro s₁ hloop₁ hslots₁ hstep₁
    obtain ⟨slots, hslots, rfl⟩ := Option.map_eq_some_iff.mp hstep₁
    rw [hslots₁] at hslots
    have hlt := stepsToStop_lt hlength hslots
    simp only [State.stepsLeft, hloop₁, hloop]
    omega
  unfold State.stopStep at hstep
  split at hstep
  · next hstopping =>
      obtain rfl := Option.some.inj hstep
      simp only [State.stepsLeft, hloop, hstopping, stepsToStop]
      omega
  · split at hstep
    · obtain rfl := Option.some.inj hstep
      simp only [State.stepsLeft, State.die, hloop]
      unfold stepsFrom
      omega
    · refine hslots ?_ ?_ hstep
      · rfl
      · rfl
  · exact hslots rfl rfl hstep

/-- Each step of the profile thread is one of those that are left. -/
theorem stepsLeft_profileStep (hstop : s.stopEvent = true)
    (hlength : s.slots.profilingSegmentSlots.length = maxParallel) {elapsed : Bool}
    (hstep : s.profileStep maxParallel task elapsed = some s') :
    s'.stepsLeft maxParallel < s.stepsLeft maxParallel := by
  have hbound : ∀ {idx : Nat} {slot : Option Profiler},
      s.slots.profilingSegmentSlots[idx]? = some slot → idx < maxParallel := by
    intro idx slot hslot
    rw [← hlength]
    exact (List.getElem?_eq_some_iff.mp hslot).1
  cases hloop : s.loop with
  | sleeping =>
      simp only [State.profileStep, hloop, hstop, if_true] at hstep
      obtain rfl := Option.some.inj hstep
      simp [State.stepsLeft, hloop]
  | passing idx =>
      simp only [State.profileStep, hloop] at hstep
      split at hstep
      · obtain rfl := Option.some.inj hstep
        simp [State.stepsLeft, hloop, stepsFrom]
      · next hslot =>
          obtain rfl := Option.some.inj hstep
          have hsplit := stepsFrom_of_lt (hbound hslot)
          simp only [State.stepsLeft, hloop]
          omega
      · next profiler hslot =>
          obtain rfl := Option.some.inj hstep
          have hsplit := stepsFrom_of_lt (hbound hslot)
          simp only [State.stepsLeft, hloop]
          omega
  | looking idx profiler =>
      simp only [State.profileStep, hloop] at hstep
      split at hstep
      · obtain rfl := Option.some.inj hstep
        calc (s.startProfilingIfNeed idx profiler elapsed).stepsLeft maxParallel
            ≤ stepsFrom maxParallel (idx + 1) := stepsLeft_startProfilingIfNeed idx profiler elapsed
          _ < s.stepsLeft maxParallel := by
              simp only [State.stepsLeft, hloop]
              omega
      · obtain rfl := Option.some.inj hstep
        simp [State.stepsLeft, hloop]
  | looked idx profiler =>
      simp only [State.profileStep, hloop] at hstep
      split at hstep
      · obtain rfl := Option.some.inj hstep
        simp [State.stepsLeft, hloop]
      · obtain rfl := Option.some.inj hstep
        simp only [State.stepsLeft, hloop]
        omega
  | dumping idx profiler =>
      simp only [State.profileStep, hloop] at hstep
      split at hstep
      · obtain rfl := Option.some.inj hstep
        simp [State.stepsLeft, hloop]
      · rw [stepsLeft_giveUp hstep]
        simp [State.stepsLeft, hloop]
  | framing idx profiler =>
      simp only [State.profileStep, hloop] at hstep
      split at hstep
      · obtain rfl := Option.some.inj hstep
        simp [State.stepsLeft, hloop]
      · rw [stepsLeft_giveUp hstep]
        simp [State.stepsLeft, hloop]
  | counting idx profiler =>
      simp only [State.profileStep, hloop] at hstep
      split at hstep
      · split at hstep
        · cases hstep
        · split at hstep
          · obtain rfl := Option.some.inj hstep
            simp [State.stepsLeft, hloop]
          · rw [stepsLeft_giveUp hstep]
            simp [State.stepsLeft, hloop]
      · obtain rfl := Option.some.inj hstep
        simp [State.stepsLeft, hloop]
  | building idx profiler =>
      simp only [State.profileStep, hloop] at hstep
      obtain rfl := Option.some.inj hstep
      simp [State.stepsLeft, State.buildSnapshot, hloop]
  | stopping idx profiler =>
      simp only [State.profileStep, hloop] at hstep
      exact stepsLeft_stopStep hloop hlength hstep
  | ended => simp [State.profileStep, hloop] at hstep

theorem Steady.stepsLeft_le (h : Steady maxParallel s) :
    s.stepsLeft maxParallel ≤ maxParallel * (maxParallel + 10) + 2 := by
  have hat : ∀ idx, s.loop.slot = some idx →
      stepsFrom maxParallel (idx + 1) + (maxParallel + 10) ≤ maxParallel * (maxParallel + 10) + 2 := by
    intro idx hidx
    rw [← stepsFrom_of_lt (h.slot idx hidx)]
    exact stepsFrom_le maxParallel idx
  have hstop : ∀ stopping : ProfileTaskExecutionContext.Stopping,
      stepsToStop maxParallel stopping ≤ maxParallel + 4 := by
    intro stopping
    cases stopping with
    | scanning traceContext idx =>
        simp only [stepsToStop]
        omega
    | _ =>
        simp only [stepsToStop]
        omega
  unfold State.stepsLeft
  cases hloop : s.loop with
  | sleeping | ended =>
      dsimp only
      omega
  | passing idx => exact stepsFrom_le maxParallel idx
  | looking idx profiler | looked idx profiler | dumping idx profiler | framing idx profiler
  | counting idx profiler | building idx profiler =>
      have hle := hat idx (by rw [hloop]; rfl)
      dsimp only
      omega
  | stopping idx profiler =>
      have hle := hat idx (by rw [hloop]; rfl)
      have hrest := hstop s.slots.stopping
      dsimp only
      omega

/-- The slots that the pass has yet to come to the end of. -/
def State.slotsLeft (maxParallel : Nat) (s : State) : Nat :=
  match s.loop with
  | .ended | .sleeping => 0
  | .passing idx | .looking idx _ | .looked idx _ | .dumping idx _ | .framing idx _ | .counting idx _
  | .building idx _ => maxParallel - idx
  | .stopping idx _ => maxParallel - (idx + 1)

theorem slotsLeft_le (maxParallel : Nat) (s : State) : s.slotsLeft maxParallel ≤ maxParallel := by
  unfold State.slotsLeft
  split <;> omega

/-- A snapshot takes one of the slots that are left. -/
theorem Steady.snapshots_profileStep (h : Steady maxParallel s) (hstop : s.stopEvent = true) {elapsed : Bool}
    (hstep : s.profileStep maxParallel task elapsed = some s') :
    s'.snapshots.length + s'.slotsLeft maxParallel ≤ s.snapshots.length + s.slotsLeft maxParallel := by
  -- A pass that begins is told from the end of the loop by the event, and only by that.
  by_cases hsleeping : s.loop = .sleeping
  · simp only [State.profileStep, hsleeping, hstop, if_true] at hstep
    obtain rfl := Option.some.inj hstep
    simp [State.slotsLeft]
  · cases transition_of_profileStep hstep with
    | finish _ hloop => exact absurd hloop hsleeping
    | beginPass _ hloop => exact absurd hloop hsleeping
    | endPass _ idx hloop => simp [State.slotsLeft]
    | crash idx profiler hloop => simp [State.slotsLeft, State.die]
    | build _ idx profiler hloop =>
        have hlt := h.slot idx (by rw [hloop]; rfl)
        simp only [State.buildSnapshot, List.length_append, List.length_singleton, State.slotsLeft, hloop]
        omega
    | fail _ idx profiler hloop =>
        obtain hloop | hloop := hloop
        · simp only [State.slotsLeft, hloop]
          omega
        · simp only [State.slotsLeft, hloop]
          omega
    | search _ idx profiler slots hloop => simp [State.slotsLeft, hloop]
    | stop _ idx reference profiler stopped hloop => simp [State.slotsLeft, hloop]
    | stopCrash _ idx profiler stopped hloop => simp [State.slotsLeft, State.die]
    | skip _ _ hloop | look _ _ _ hloop | start _ _ _ hloop | wait _ _ hloop | see _ _ _ hloop
    | leave _ _ _ hloop | dump _ _ _ hloop | alive _ _ _ hloop | frame _ _ _ hloop | accept _ _ _ hloop
    | refuse _ _ _ hloop | again _ _ _ hloop | stopped _ _ _ hloop =>
        simp only [State.slotsLeft, hloop]
        omega

/-- What holds of a task from its stop on. -/
structure Stopped (maxParallel : Nat) (task : ProfileTask) (bound : Nat) (s : State) : Prop where
  reached : ∃ actions, Run (Step maxParallel task) (.init maxParallel) actions s
  stopEvent : s.stopEvent = true
  snapshots : s.snapshots.length + s.slotsLeft maxParallel ≤ bound

theorem Stopped.step {bound : Nat} {action : Action} (h : Stopped maxParallel task bound s)
    (hstep : Step maxParallel task s action s') : Stopped maxParallel task bound s' := by
  obtain ⟨actions, hrun⟩ := h.reached
  have hreached : ∃ actions, Run (Step maxParallel task) (.init maxParallel) actions s' :=
    ⟨_, hrun.snoc hstep⟩
  cases action with
  | app action =>
      have haside := aside_of_appStep hstep
      refine ⟨hreached, haside.stopEvent.trans h.stopEvent, ?_⟩
      rw [haside.snapshots, State.slotsLeft, haside.loop]
      exact h.snapshots
  | profile elapsed =>
      have hstopEvent : s'.stopEvent = true := by
        cases transition_of_profileStep hstep with
        | crash | stopCrash => rfl
        | _ => exact h.stopEvent
      have hle := (steady_of_run hrun).snapshots_profileStep h.stopEvent hstep
      exact ⟨hreached, hstopEvent, hle.trans h.snapshots⟩
  | stopProfiling =>
      obtain rfl := Option.some.inj hstep
      exact ⟨hreached, rfl, h.snapshots⟩

/-- The profile thread uses up the steps that are left, and nothing else adds to them. -/
theorem stepsLeft_step {bound : Nat} {action : Action} (h : Stopped maxParallel task bound s)
    (hstep : Step maxParallel task s action s') :
    s'.stepsLeft maxParallel + action.isProfile.toNat ≤ s.stepsLeft maxParallel := by
  obtain ⟨actions, hrun⟩ := h.reached
  cases action with
  | app action =>
      have haside := aside_of_appStep hstep
      rw [State.stepsLeft, haside.loop, haside.stopping]
      exact Nat.le_refl _
  | profile elapsed => exact stepsLeft_profileStep h.stopEvent (slots_balanced_of_run hrun).length hstep
  | stopProfiling =>
      obtain rfl := Option.some.inj hstep
      exact Nat.le_refl _

/-- **A stopped task winds up.** Whatever the application threads go on to do, the profile thread of a task that
has been stopped can always take its next step, ends after the pass that it is in, and builds at most one more
snapshot for each slot. -/
theorem stopped_task_winds_up {before after : List Action}
    (hbefore : Run (Step maxParallel task) (.init maxParallel) before s) (hstop : s.stopEvent = true)
    (hafter : Run (Step maxParallel task) s after s') : WindsUp maxParallel task s after s' := by
  have hstopped : Stopped maxParallel task (s.snapshots.length + maxParallel) s :=
    ⟨⟨before, hbefore⟩, hstop, Nat.add_le_add_left (slotsLeft_le maxParallel s) _⟩
  have hfinal := hafter.invariant (fun _ _ _ h hstep => Stopped.step h hstep) hstopped
  constructor
  · intro hended elapsed
    exact (steady_of_run (hbefore.append hafter)).goesOn hended elapsed
  · have hcount := Run.countP_le (State.stepsLeft maxParallel) Action.isProfile
      (fun _ _ _ h hstep => Stopped.step h hstep) (fun _ _ _ h hstep => stepsLeft_step h hstep) hafter hstopped
    have hle := (steady_of_run hbefore).stepsLeft_le
    omega
  · have hle := hfinal.snapshots
    omega

/-- A profiled request whose task is stopped while the profile thread is at its slot. -/
def stoppedRequest : List Action :=
  profiledRequest ++ List.replicate 4 (.profile false) ++ [.stopProfiling]

theorem stoppedRequest_winds_up : ∃ s s' : State,
    Run (Step 1 usersTask) (.init 1) stoppedRequest s ∧
    Run (Step 1 usersTask) s (.app (.stopSpan 0) :: List.replicate 6 (.profile false)) s' ∧
    s.snapshots.length = 0 ∧ s'.snapshots.length = 1 ∧ s'.loop = .ended ∧
    WindsUp 1 usersTask s (.app (.stopSpan 0) :: List.replicate 6 (.profile false)) s' := by
  have htest : (stoppedRequest.foldlM (step 1 usersTask) (.init 1)).any (fun s =>
      decide (s.stopEvent = true ∧ s.snapshots.length = 0) &&
        ((Action.app (.stopSpan 0) :: List.replicate 6 (.profile false)).foldlM (step 1 usersTask) s).any
          fun s' => decide (s'.snapshots.length = 1 ∧ s'.loop = .ended)) = true := by
    decide +kernel
  obtain ⟨s, hs, htest⟩ := (Option.any_eq_true _ _).mp htest
  obtain ⟨hbefore, hrest⟩ := Bool.and_eq_true_iff.mp htest
  obtain ⟨hstop, hnone⟩ := of_decide_eq_true hbefore
  obtain ⟨s', hs', hafter⟩ := (Option.any_eq_true _ _).mp hrest
  obtain ⟨hone, hended⟩ := of_decide_eq_true hafter
  have hrun : Run (Step 1 usersTask) (.init 1) stoppedRequest s := Run.of_foldlM _ hs
  have hrun' := Run.of_foldlM _ hs'
  exact ⟨s, s', hrun, hrun', hnone, hone, hended, stopped_task_winds_up hrun hstop hrun'⟩

end SkyWalking.ProfileThread
