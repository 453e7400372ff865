import Mathlib
import SkyWalking.Lib.Slot
import SkyWalking.Profile.Slots

/-!
# Whoever raises the count finds a slot

A scanning attempt may pass a slot just before it is freed, so the number of free slots alone does not
tell that one lies ahead of it. What does: from every position on there are at least as many free slots
as attempts still to scan from there.
-/

namespace SkyWalking.ProfileTaskExecutionContext

/-- What one step does, with the facts it was guarded by. -/
inductive Transition (maxParallel : Nat) (s : State) : Action → State → Prop where
  | call (traceContext : Nat) (firstSpanOpname : String) :
      Transition maxParallel s (.attemptProfiling traceContext firstSpanOpname)
        { s with attempts := s.attempts ++ [⟨traceContext, firstSpanOpname, .called⟩] }
  | refuse (index : Nat) (attempt : Attempt) :
      s.attempts[index]? = some attempt → attempt.progress.isScanning = false →
      Transition maxParallel s (.attemptStep index) (s.setProgress index attempt .refused)
  | read (index : Nat) (attempt : Attempt) :
      s.attempts[index]? = some attempt → attempt.progress = .called →
      s.currentProfilingCnt < maxParallel →
      Transition maxParallel s (.attemptStep index)
        (s.setProgress index attempt (.read s.currentProfilingCnt))
  | check (index : Nat) (attempt : Attempt) (usingSlotCnt : Int) :
      s.attempts[index]? = some attempt → attempt.progress = .read usingSlotCnt →
      Transition maxParallel s (.attemptStep index)
        (s.setProgress index attempt (.checked usingSlotCnt))
  | raise (index : Nat) (attempt : Attempt) :
      s.attempts[index]? = some attempt → attempt.progress = .checked s.currentProfilingCnt →
      Transition maxParallel s (.attemptStep index)
        { s.setProgress index attempt (.scanning 0) with
          currentProfilingCnt := s.currentProfilingCnt + 1 }
  | take (index : Nat) (attempt : Attempt) (idx : Nat) :
      s.attempts[index]? = some attempt → attempt.progress = .scanning idx →
      s.profilingSegmentSlots[idx]? = some none →
      Transition maxParallel s (.attemptStep index)
        { s.setProgress index attempt (.took idx) with
          profilingSegmentSlots :=
            s.profilingSegmentSlots.set idx (some ⟨index, attempt.traceContext⟩) }
  | pass (index : Nat) (attempt : Attempt) (idx : Nat) (profiler : Profiler) :
      s.attempts[index]? = some attempt → attempt.progress = .scanning idx →
      s.profilingSegmentSlots[idx]? = some (some profiler) →
      Transition maxParallel s (.attemptStep index)
        (s.setProgress index attempt (.scanning (idx + 1)))
  | exhaust (index : Nat) (attempt : Attempt) (idx : Nat) :
      s.attempts[index]? = some attempt → attempt.progress = .scanning idx →
      s.profilingSegmentSlots[idx]? = none →
      Transition maxParallel s (.attemptStep index) (s.setProgress index attempt .exhausted)
  | search (traceContext : Nat) :
      s.stopping = .idle →
      Transition maxParallel s (.stopTracingProfile traceContext)
        { s with stopping := .scanning traceContext 0 }
  | advance (traceContext idx : Nat) :
      s.stopping = .scanning traceContext idx →
      (∀ profiler, s.profilingSegmentSlots[idx]? = some (some profiler) →
        profiler.traceContext ≠ traceContext) →
      Transition maxParallel s .stopStep { s with stopping := .scanning traceContext (idx + 1) }
  | miss (traceContext idx : Nat) :
      s.stopping = .scanning traceContext idx → s.profilingSegmentSlots[idx]? = none →
      Transition maxParallel s .stopStep { s with stopping := .idle }
  | find (traceContext idx : Nat) (profiler : Profiler) :
      s.stopping = .scanning traceContext idx →
      s.profilingSegmentSlots[idx]? = some (some profiler) →
      profiler.traceContext = traceContext →
      Transition maxParallel s .stopStep { s with stopping := .found idx profiler }
  | clear (idx : Nat) (profiler : Profiler) :
      s.stopping = .found idx profiler →
      Transition maxParallel s .stopStep { s with
        profilingSegmentSlots := s.profilingSegmentSlots.set idx none
        stopping := .cleared profiler }
  | stop (profiler : Profiler) :
      s.stopping = .cleared profiler →
      Transition maxParallel s .stopStep { s with stopping := .stopped }
  | lower :
      s.stopping = .stopped →
      Transition maxParallel s .stopStep
        { s with currentProfilingCnt := s.currentProfilingCnt - 1, stopping := .idle }
  | start :
      Transition maxParallel s .isStartProfileable
        { s with totalStartedProfilingCnt := s.totalStartedProfilingCnt + 1 }

theorem transition_of_attemptStep {maxParallel : Nat} {task : ProfileTask} {s s' : State}
    {index : Nat} {attempt : Attempt} (hattempt : s.attempts[index]? = some attempt)
    (hstep : s.attemptStep maxParallel task index attempt = some s') :
    Transition maxParallel s (.attemptStep index) s' := by
  unfold State.attemptStep at hstep
  cases hprogress : attempt.progress with
  | called =>
      by_cases hfull : s.currentProfilingCnt ≥ maxParallel
      · simp only [hprogress, hfull, if_true, Option.some.injEq] at hstep
        subst hstep
        exact .refuse index attempt hattempt (by rw [hprogress]; rfl)
      · simp only [hprogress, hfull, if_false, Option.some.injEq] at hstep
        subst hstep
        exact .read index attempt hattempt hprogress (by omega)
  | read usingSlotCnt =>
      simp only [hprogress] at hstep
      have hrefuse : Transition maxParallel s (.attemptStep index)
          (s.setProgress index attempt .refused) :=
        .refuse index attempt hattempt (by rw [hprogress]; rfl)
      split at hstep
      · obtain rfl := Option.some.inj hstep
        exact hrefuse
      · split at hstep
        · obtain rfl := Option.some.inj hstep
          exact hrefuse
        · obtain rfl := Option.some.inj hstep
          exact .check index attempt usingSlotCnt hattempt hprogress
  | checked usingSlotCnt =>
      by_cases hsame : s.currentProfilingCnt = usingSlotCnt
      · subst hsame
        simp only [hprogress, if_true, Option.some.injEq] at hstep
        subst hstep
        exact .raise index attempt hattempt hprogress
      · simp only [hprogress, hsame, if_false, Option.some.injEq] at hstep
        subst hstep
        exact .refuse index attempt hattempt (by rw [hprogress]; rfl)
  | scanning idx =>
      cases hslot : s.profilingSegmentSlots[idx]? with
      | none =>
          simp only [hprogress, hslot, Option.some.injEq] at hstep
          subst hstep
          exact .exhaust index attempt idx hattempt hprogress hslot
      | some slot =>
          cases slot with
          | none =>
              simp only [hprogress, hslot, Option.some.injEq] at hstep
              subst hstep
              exact .take index attempt idx hattempt hprogress hslot
          | some profiler =>
              simp only [hprogress, hslot, Option.some.injEq] at hstep
              subst hstep
              exact .pass index attempt idx profiler hattempt hprogress hslot
  | took idx => simp [hprogress] at hstep
  | refused => simp [hprogress] at hstep
  | exhausted => simp [hprogress] at hstep

theorem transition_of_stopStep {maxParallel : Nat} {s s' : State} (hstep : s.stopStep = some s') :
    Transition maxParallel s .stopStep s' := by
  unfold State.stopStep at hstep
  cases hstopping : s.stopping with
  | idle => simp [hstopping] at hstep
  | scanning traceContext idx =>
      cases hslot : s.profilingSegmentSlots[idx]? with
      | none =>
          simp only [hstopping, hslot, Option.some.injEq] at hstep
          subst hstep
          exact .miss traceContext idx hstopping hslot
      | some slot =>
          cases slot with
          | none =>
              simp only [hstopping, hslot, Option.some.injEq] at hstep
              subst hstep
              refine .advance traceContext idx hstopping ?_
              intro profiler hprofiler
              simp [hslot] at hprofiler
          | some profiler =>
              by_cases hmatches : profiler.matches traceContext = true
              · simp only [hstopping, hslot, hmatches, if_true, Option.some.injEq] at hstep
                subst hstep
                exact .find traceContext idx profiler hstopping hslot (by simpa [Profiler.matches] using hmatches)
              · simp only [hstopping, hslot, hmatches, Bool.false_eq_true, if_false,
                  Option.some.injEq] at hstep
                subst hstep
                refine .advance traceContext idx hstopping ?_
                intro other hother
                obtain rfl : profiler = other := by simpa [hslot] using hother
                simpa [Profiler.matches] using hmatches
  | found idx profiler =>
      simp only [hstopping, Option.some.injEq] at hstep
      subst hstep
      exact .clear idx profiler hstopping
  | cleared profiler =>
      simp only [hstopping, Option.some.injEq] at hstep
      subst hstep
      exact .stop profiler hstopping
  | stopped =>
      simp only [hstopping, Option.some.injEq] at hstep
      subst hstep
      exact .lower hstopping

theorem transition_of_step {maxParallel : Nat} {task : ProfileTask} {s s' : State} {action : Action}
    (hstep : Step maxParallel task s action s') : Transition maxParallel s action s' := by
  unfold Step step at hstep
  cases action with
  | attemptProfiling traceContext firstSpanOpname =>
      obtain rfl := Option.some.inj hstep
      exact .call traceContext firstSpanOpname
  | attemptStep index =>
      cases hattempt : s.attempts[index]? with
      | none => simp [hattempt] at hstep
      | some attempt =>
          simp only [hattempt] at hstep
          exact transition_of_attemptStep hattempt hstep
  | stopTracingProfile traceContext =>
      by_cases hidle : s.stopping = .idle
      · simp only [if_pos hidle, Option.some.injEq] at hstep
        subst hstep
        exact .search traceContext hidle
      · simp [hidle] at hstep
  | stopStep => exact transition_of_stopStep hstep
  | isStartProfileable =>
      by_cases hidle : s.stopping = .idle
      · simp only [if_pos hidle, Option.some.injEq] at hstep
        subst hstep
        exact .start
      · simp [hidle] at hstep

def Progress.isFrom (idx : Nat) : Progress → Bool
  | .scanning position => decide (idx ≤ position)
  | _ => false

/-- The attempts that will try no slot before `idx`. -/
def State.scanningFrom (s : State) (idx : Nat) : Nat :=
  s.attempts.countP fun attempt => attempt.progress.isFrom idx

/-- The empty slots from `idx` on. -/
def State.freeFrom (s : State) (idx : Nat) : Nat :=
  (s.profilingSegmentSlots.drop idx).countP Option.isNone

structure Balanced (maxParallel : Nat) (s : State) : Prop where
  length : s.profilingSegmentSlots.length = maxParallel
  count : s.currentProfilingCnt = (s.occupied + s.scanning + s.pending : Nat)
  limit : s.currentProfilingCnt ≤ maxParallel
  readings : ∀ attempt ∈ s.attempts, ∀ usingSlotCnt,
    attempt.progress = .read usingSlotCnt ∨ attempt.progress = .checked usingSlotCnt →
      usingSlotCnt < maxParallel
  room : ∀ idx, s.scanningFrom idx ≤ s.freeFrom idx
  found : ∀ idx profiler, s.stopping = .found idx profiler →
    s.profilingSegmentSlots[idx]? = some (some profiler)
  served : ∀ attempt ∈ s.attempts, attempt.progress ≠ .exhausted

section Counts

variable {s : State} {index : Nat} {attempt : Attempt}

theorem scanning_setProgress (hattempt : s.attempts[index]? = some attempt) (progress : Progress) :
    (s.setProgress index attempt progress).scanning + attempt.progress.isScanning.toNat =
      s.scanning + progress.isScanning.toNat :=
  Slot.countP_set hattempt { attempt with progress := progress } fun attempt =>
    attempt.progress.isScanning

theorem scanningFrom_setProgress (hattempt : s.attempts[index]? = some attempt)
    (progress : Progress) (idx : Nat) :
    (s.setProgress index attempt progress).scanningFrom idx + (attempt.progress.isFrom idx).toNat =
      s.scanningFrom idx + (progress.isFrom idx).toNat :=
  Slot.countP_set hattempt { attempt with progress := progress } fun attempt =>
    attempt.progress.isFrom idx

theorem scanningFrom_zero (s : State) : s.scanningFrom 0 = s.scanning := by
  unfold State.scanningFrom State.scanning
  apply List.countP_congr
  intro attempt _
  cases attempt.progress <;> simp [Progress.isFrom, Progress.isScanning]

theorem freeFrom_zero (s : State) : s.freeFrom 0 + s.occupied = s.profilingSegmentSlots.length := by
  unfold State.freeFrom State.occupied
  rw [List.drop_zero, List.length_eq_countP_add_countP Option.isSome, Nat.add_comm]
  congr 2
  funext slot
  cases slot <;> rfl

theorem freeFrom_succ {idx : Nat} {profiler : Profiler}
    (hslot : s.profilingSegmentSlots[idx]? = some (some profiler)) :
    s.freeFrom idx = s.freeFrom (idx + 1) := by
  obtain ⟨hlt, hvalue⟩ := List.getElem?_eq_some_iff.mp hslot
  unfold State.freeFrom
  rw [List.drop_eq_getElem_cons hlt, hvalue, List.countP_cons_of_neg (by simp)]

/-- Setting one slot changes the free slots from that position back. -/
theorem free_set {slots : List (Option Profiler)} {position : Nat} {before : Option Profiler}
    (hslot : slots[position]? = some before) (after : Option Profiler) (idx : Nat) :
    ((slots.set position after).drop idx).countP Option.isNone +
        (decide (idx ≤ position) && before.isNone).toNat =
      (slots.drop idx).countP Option.isNone + (decide (idx ≤ position) && after.isNone).toNat := by
  rw [List.drop_set]
  by_cases hbehind : idx ≤ position
  · rw [if_neg (by omega)]
    have hdrop : (slots.drop idx)[position - idx]? = some before := by
      rw [List.getElem?_drop, Nat.add_sub_cancel' hbehind]
      exact hslot
    simpa [hbehind] using Slot.countP_set hdrop after Option.isNone
  · rw [if_pos (by omega)]
    simp [hbehind]

theorem occupied_set {slots : List (Option Profiler)} {position : Nat} {before : Option Profiler}
    (hslot : slots[position]? = some before) (after : Option Profiler) :
    (slots.set position after).countP Option.isSome + before.isSome.toNat =
      slots.countP Option.isSome + after.isSome.toNat :=
  Slot.countP_set hslot after Option.isSome

end Counts

theorem Balanced.init (maxParallel : Nat) : Balanced maxParallel (State.init maxParallel) := by
  refine ⟨by simp [State.init], ?_, ?_, ?_, ?_, ?_, ?_⟩
  · simp [State.init, State.occupied, State.scanning, State.pending, List.countP_replicate]
  · simp [State.init]
  · intro attempt hattempt
    cases hattempt
  · intro idx
    simp [State.init, State.scanningFrom]
  · intro idx profiler hfound
    cases hfound
  · intro attempt hattempt
    cases hattempt

theorem Balanced.setProgress {maxParallel : Nat} {s : State} (hbalanced : Balanced maxParallel s)
    {index : Nat} {attempt : Attempt} (hattempt : s.attempts[index]? = some attempt)
    {progress : Progress} (hbefore : attempt.progress.isScanning = false)
    (hafter : progress.isScanning = false) (hserved : progress ≠ .exhausted)
    (hreading : ∀ usingSlotCnt, progress = .read usingSlotCnt ∨ progress = .checked usingSlotCnt →
      usingSlotCnt < maxParallel) :
    Balanced maxParallel (s.setProgress index attempt progress) := by
  have hscanning := scanning_setProgress hattempt progress
  rw [hbefore, hafter] at hscanning
  have hnotFrom : ∀ (progress : Progress) (idx : Nat), progress.isScanning = false →
      progress.isFrom idx = false := by
    intro progress idx h
    cases progress <;> simp_all [Progress.isScanning, Progress.isFrom]
  refine ⟨hbalanced.length, ?_, hbalanced.limit, ?_, ?_, hbalanced.found, ?_⟩
  · have hcount := hbalanced.count
    change s.currentProfilingCnt =
      (s.occupied + (s.setProgress index attempt progress).scanning + s.pending : Nat)
    simp only [Nat.add_right_cancel_iff] at hscanning
    rw [hscanning]
    exact hcount
  · exact Slot.forall_mem_set hbalanced.readings hreading
  · intro idx
    have hfrom := scanningFrom_setProgress hattempt progress idx
    rw [hnotFrom _ idx hbefore, hnotFrom _ idx hafter] at hfrom
    have hroom := hbalanced.room idx
    change _ ≤ s.freeFrom idx
    omega
  · exact Slot.forall_mem_set hbalanced.served hserved

theorem Balanced.room_raise {maxParallel : Nat} {s : State} (hbalanced : Balanced maxParallel s)
    {index : Nat} {attempt : Attempt} (hattempt : s.attempts[index]? = some attempt)
    (hbefore : attempt.progress = .checked s.currentProfilingCnt)
    (hlimit : s.currentProfilingCnt < maxParallel) (idx : Nat) :
    (s.setProgress index attempt (.scanning 0)).scanningFrom idx ≤ s.freeFrom idx := by
  have hfrom := scanningFrom_setProgress hattempt (.scanning 0) idx
  have hroom := hbalanced.room idx
  rw [hbefore] at hfrom
  cases idx with
  | zero =>
      -- the count bounds all scanners together, and it was below the number of slots
      have hall := scanningFrom_zero s
      have hfree := freeFrom_zero s
      have hcount := hbalanced.count
      have hlength := hbalanced.length
      simp only [Progress.isFrom, le_refl, decide_true, Bool.toNat_true, Bool.toNat_false] at hfrom
      omega
  | succ idx =>
      simp only [Progress.isFrom, Nat.le_zero_eq, Nat.add_eq_zero_iff, one_ne_zero, and_false,
        decide_false, Bool.toNat_false] at hfrom
      omega

theorem Balanced.room_pass {maxParallel : Nat} {s : State} (hbalanced : Balanced maxParallel s)
    {index : Nat} {attempt : Attempt} (hattempt : s.attempts[index]? = some attempt) {position : Nat}
    (hbefore : attempt.progress = .scanning position) {profiler : Profiler}
    (hslot : s.profilingSegmentSlots[position]? = some (some profiler)) (idx : Nat) :
    (s.setProgress index attempt (.scanning (position + 1))).scanningFrom idx ≤ s.freeFrom idx := by
  have hfrom := scanningFrom_setProgress hattempt (.scanning (position + 1)) idx
  rw [hbefore] at hfrom
  simp only [Progress.isFrom] at hfrom
  by_cases hnext : idx = position + 1
  · -- the attempt comes from a position with as many free slots ahead
    subst hnext
    have hroom := hbalanced.room position
    rw [freeFrom_succ hslot] at hroom
    have hmono : s.scanningFrom (position + 1) + 1 ≤ s.scanningFrom position := by
      have hbehind := scanningFrom_setProgress hattempt .refused position
      have hahead := scanningFrom_setProgress hattempt .refused (position + 1)
      rw [hbefore] at hbehind hahead
      simp only [Progress.isFrom, le_refl, decide_true, Bool.toNat_true, Bool.toNat_false,
        Nat.not_succ_le_self, decide_false] at hbehind hahead
      have hle : (s.setProgress index attempt .refused).scanningFrom (position + 1) ≤
          (s.setProgress index attempt .refused).scanningFrom position := by
        apply List.countP_mono_left
        intro other _
        cases other.progress <;> simp [Progress.isFrom]
        omega
      omega
    simp only [Nat.not_succ_le_self, decide_false, Bool.toNat_false, le_refl, decide_true,
      Bool.toNat_true] at hfrom
    omega
  · have hsame : decide (idx ≤ position) = decide (idx ≤ position + 1) := by
      rw [decide_eq_decide]
      omega
    rw [hsame] at hfrom
    have hroom := hbalanced.room idx
    omega

theorem Balanced.take {maxParallel : Nat} {s : State} (hbalanced : Balanced maxParallel s)
    {index : Nat} {attempt : Attempt} (hattempt : s.attempts[index]? = some attempt) {position : Nat}
    (hbefore : attempt.progress = .scanning position)
    (hslot : s.profilingSegmentSlots[position]? = some none) (profiler : Profiler) :
    Balanced maxParallel { s.setProgress index attempt (.took position) with
      profilingSegmentSlots := s.profilingSegmentSlots.set position (some profiler) } := by
  refine ⟨?_, ?_, hbalanced.limit, ?_, ?_, ?_, ?_⟩
  · rw [List.length_set]
    exact hbalanced.length
  · have hscanning := scanning_setProgress hattempt (.took position)
    have hoccupied := occupied_set hslot (some profiler)
    have hcount := hbalanced.count
    rw [hbefore] at hscanning
    simp only [Progress.isScanning, Bool.toNat_true, Bool.toNat_false] at hscanning
    simp only [Option.isSome_none, Option.isSome_some, Bool.toNat_true, Bool.toNat_false] at hoccupied
    change s.currentProfilingCnt =
      ((s.profilingSegmentSlots.set position (some profiler)).countP Option.isSome +
        (s.setProgress index attempt (.took position)).scanning + s.pending : Nat)
    change _ = s.occupied + 1 at hoccupied
    omega
  · apply Slot.forall_mem_set hbalanced.readings
    simp
  · intro idx
    have hfrom := scanningFrom_setProgress hattempt (.took position) idx
    have hfree := free_set hslot (some profiler) idx
    have hroom := hbalanced.room idx
    rw [hbefore] at hfrom
    simp only [Progress.isFrom, Bool.toNat_false, Option.isNone_none, Option.isNone_some,
      Bool.and_true, Bool.and_false] at hfrom hfree
    change (s.setProgress index attempt (.took position)).scanningFrom idx ≤
      ((s.profilingSegmentSlots.set position (some profiler)).drop idx).countP Option.isNone
    change _ ≤ (s.profilingSegmentSlots.drop idx).countP Option.isNone at hroom
    omega
  · intro idx other hfound
    have hother := hbalanced.found idx other hfound
    have hne : position ≠ idx := by
      intro heq
      rw [heq, hother] at hslot
      cases hslot
    change (s.profilingSegmentSlots.set position (some profiler))[idx]? = _
    rw [List.getElem?_set_ne hne]
    exact hother
  · apply Slot.forall_mem_set hbalanced.served
    simp

theorem Balanced.clear {maxParallel : Nat} {s : State} (hbalanced : Balanced maxParallel s)
    {position : Nat} {profiler : Profiler} (hfound : s.stopping = .found position profiler) :
    Balanced maxParallel { s with
      profilingSegmentSlots := s.profilingSegmentSlots.set position none
      stopping := .cleared profiler } := by
  have hslot := hbalanced.found position profiler hfound
  refine ⟨?_, ?_, hbalanced.limit, hbalanced.readings, ?_, fun _ _ h => (by cases h),
    hbalanced.served⟩
  · rw [List.length_set]
    exact hbalanced.length
  · have hoccupied := occupied_set hslot none
    have hcount := hbalanced.count
    simp only [State.pending, hfound] at hcount
    simp only [Option.isSome_none, Option.isSome_some, Bool.toNat_true, Bool.toNat_false] at hoccupied
    change s.currentProfilingCnt =
      ((s.profilingSegmentSlots.set position none).countP Option.isSome + s.scanning + 1 : Nat)
    change _ = s.occupied + 0 at hoccupied
    omega
  · intro idx
    have hfree := free_set hslot none idx
    have hroom := hbalanced.room idx
    simp only [Option.isNone_some, Bool.and_false, Bool.toNat_false] at hfree
    change s.scanningFrom idx ≤
      ((s.profilingSegmentSlots.set position none).drop idx).countP Option.isNone
    change _ ≤ (s.profilingSegmentSlots.drop idx).countP Option.isNone at hroom
    omega

theorem Balanced.setStopping {maxParallel : Nat} {s : State} (hbalanced : Balanced maxParallel s)
    {stopping : Stopping} (hpending : { s with stopping := stopping }.pending = s.pending)
    (hfound : ∀ idx profiler, stopping = .found idx profiler →
      s.profilingSegmentSlots[idx]? = some (some profiler)) :
    Balanced maxParallel { s with stopping := stopping } := by
  refine ⟨hbalanced.length, ?_, hbalanced.limit, hbalanced.readings, hbalanced.room, hfound,
    hbalanced.served⟩
  rw [hpending]
  exact hbalanced.count

theorem Balanced.scanning_lt {maxParallel : Nat} {s : State} (hbalanced : Balanced maxParallel s)
    {index : Nat} {attempt : Attempt} (hattempt : s.attempts[index]? = some attempt) {position : Nat}
    (hscanning : attempt.progress = .scanning position) : position < maxParallel := by
  by_contra hlate
  have hroom := hbalanced.room position
  have hfrom := scanningFrom_setProgress hattempt .refused position
  have hend : s.freeFrom position = 0 := by
    unfold State.freeFrom
    rw [List.drop_eq_nil_of_le (by rw [hbalanced.length]; omega), List.countP_nil]
  rw [hscanning] at hfrom
  simp only [Progress.isFrom, le_refl, decide_true, Bool.toNat_true, Bool.toNat_false] at hfrom
  omega

theorem Balanced.transition {maxParallel : Nat} {s s' : State} {action : Action}
    (hbalanced : Balanced maxParallel s) (h : Transition maxParallel s action s') :
    Balanced maxParallel s' := by
  cases h with
  | call traceContext firstSpanOpname =>
      refine ⟨hbalanced.length, ?_, hbalanced.limit, ?_, ?_, hbalanced.found, ?_⟩
      · have hsame : (s.attempts ++ [(⟨traceContext, firstSpanOpname, .called⟩ : Attempt)]).countP
            (fun attempt => attempt.progress.isScanning) = s.scanning := by
          rw [List.countP_append]
          rfl
        change s.currentProfilingCnt = (s.occupied + _ + s.pending : Nat)
        rw [State.scanning, hsame]
        exact hbalanced.count
      · intro attempt hattempt usingSlotCnt hprogress
        obtain hattempt | hattempt := List.mem_append.mp hattempt
        · exact hbalanced.readings attempt hattempt usingSlotCnt hprogress
        · obtain rfl := List.mem_singleton.mp hattempt
          simp at hprogress
      · intro idx
        have hsame : (s.attempts ++ [(⟨traceContext, firstSpanOpname, .called⟩ : Attempt)]).countP
            (fun attempt => attempt.progress.isFrom idx) = s.scanningFrom idx := by
          rw [List.countP_append]
          rfl
        change _ ≤ s.freeFrom idx
        rw [State.scanningFrom, hsame]
        exact hbalanced.room idx
      · intro attempt hattempt
        obtain hattempt | hattempt := List.mem_append.mp hattempt
        · exact hbalanced.served attempt hattempt
        · obtain rfl := List.mem_singleton.mp hattempt
          simp
  | refuse index attempt hattempt hidle =>
      exact hbalanced.setProgress hattempt hidle rfl (by simp) (by simp)
  | read index attempt hattempt hcalled hlimit =>
      refine hbalanced.setProgress hattempt (by rw [hcalled]; rfl) rfl (by simp) ?_
      intro usingSlotCnt hreading
      simp only [Progress.read.injEq, reduceCtorEq, or_false] at hreading
      rw [← hreading]
      exact hlimit
  | check index attempt usingSlotCnt hattempt hread =>
      refine hbalanced.setProgress hattempt (by rw [hread]; rfl) rfl (by simp) ?_
      intro other hreading
      simp only [Progress.checked.injEq, reduceCtorEq, false_or] at hreading
      rw [← hreading]
      exact hbalanced.readings attempt (List.mem_of_getElem? hattempt) _ (.inl hread)
  | raise index attempt hattempt hchecked =>
      have hlimit := hbalanced.readings attempt (List.mem_of_getElem? hattempt) _ (.inr hchecked)
      refine ⟨hbalanced.length, ?_, ?_, ?_, hbalanced.room_raise hattempt hchecked hlimit,
        hbalanced.found, ?_⟩
      · have hscanning := scanning_setProgress hattempt (.scanning 0)
        have hcount := hbalanced.count
        rw [hchecked] at hscanning
        simp only [Progress.isScanning, Bool.toNat_true, Bool.toNat_false] at hscanning
        change s.currentProfilingCnt + 1 =
          (s.occupied + (s.setProgress index attempt (.scanning 0)).scanning + s.pending : Nat)
        omega
      · change s.currentProfilingCnt + 1 ≤ (maxParallel : Int)
        omega
      · apply Slot.forall_mem_set hbalanced.readings
        simp
      · apply Slot.forall_mem_set hbalanced.served
        simp
  | take index attempt idx hattempt hscanning hslot =>
      exact hbalanced.take hattempt hscanning hslot _
  | pass index attempt idx profiler hattempt hscanning hslot =>
      refine ⟨hbalanced.length, ?_, hbalanced.limit, ?_,
        hbalanced.room_pass hattempt hscanning hslot, hbalanced.found, ?_⟩
      · have hsame := scanning_setProgress hattempt (.scanning (idx + 1))
        have hcount := hbalanced.count
        rw [hscanning] at hsame
        simp only [Progress.isScanning, Nat.add_right_cancel_iff] at hsame
        change s.currentProfilingCnt =
          (s.occupied + (s.setProgress index attempt (.scanning (idx + 1))).scanning +
            s.pending : Nat)
        rw [hsame]
        exact hcount
      · apply Slot.forall_mem_set hbalanced.readings
        simp
      · apply Slot.forall_mem_set hbalanced.served
        simp
  | exhaust index attempt idx hattempt hscanning hslot =>
      have hlt := hbalanced.scanning_lt hattempt hscanning
      rw [List.getElem?_eq_none_iff, hbalanced.length] at hslot
      omega
  | search traceContext hstopping =>
      refine hbalanced.setStopping ?_ (fun _ _ h => (by cases h))
      simp [State.pending, hstopping]
  | advance traceContext idx hstopping | miss traceContext idx hstopping =>
      refine hbalanced.setStopping ?_ (fun _ _ h => (by cases h))
      simp [State.pending, hstopping]
  | find traceContext idx profiler hstopping hslot =>
      refine hbalanced.setStopping (by simp [State.pending, hstopping]) ?_
      intro other found hfound
      obtain ⟨rfl, rfl⟩ := Stopping.found.inj hfound
      exact hslot
  | clear idx profiler hfound => exact hbalanced.clear hfound
  | stop profiler hcleared =>
      refine hbalanced.setStopping ?_ (fun _ _ h => (by cases h))
      simp [State.pending, hcleared]
  | lower hstopped =>
      have hcount := hbalanced.count
      have hlimit := hbalanced.limit
      simp only [State.pending, hstopped] at hcount
      refine ⟨hbalanced.length, ?_, ?_, hbalanced.readings, hbalanced.room,
        fun _ _ h => (by cases h), hbalanced.served⟩
      · change s.currentProfilingCnt - 1 = (s.occupied + s.scanning + 0 : Nat)
        omega
      · change s.currentProfilingCnt - 1 ≤ (maxParallel : Int)
        omega
  | start =>
      exact ⟨hbalanced.length, hbalanced.count, hbalanced.limit, hbalanced.readings, hbalanced.room,
        hbalanced.found, hbalanced.served⟩

/-- Only an empty slot is filled, and only the profiler that was found there is taken out. -/
theorem slot_of_transition {maxParallel : Nat} {s s' : State} {action : Action}
    (h : Transition maxParallel s action s') {idx : Nat} {before after : Profiler}
    (hbefore : s.profilingSegmentSlots[idx]? = some (some before))
    (hafter : s'.profilingSegmentSlots[idx]? = some (some after)) : after = before := by
  have hkept : s.profilingSegmentSlots[idx]? = some (some after) → after = before := by
    intro h
    rw [hbefore] at h
    simpa using h.symm
  cases h with
  | take index attempt position hattempt hscanning hslot =>
      have hne : position ≠ idx := by
        intro heq
        rw [heq, hbefore] at hslot
        cases hslot
      apply hkept
      rw [← hafter]
      exact (List.getElem?_set_ne hne).symm
  | clear position profiler hfound =>
      by_cases heq : position = idx
      · subst heq
        change (s.profilingSegmentSlots.set position none)[position]? = _ at hafter
        rw [List.getElem?_set_self' , hbefore] at hafter
        simp at hafter
      · apply hkept
        rw [← hafter]
        exact (List.getElem?_set_ne heq).symm
  | call | refuse | read | check | raise | pass | exhaust | search | advance | miss | find | stop | lower
  | start =>
      exact hkept hafter

/-- The next operation of a scanning attempt takes its slot or goes on to the next one. -/
theorem scanning_goes_on {maxParallel : Nat} (task : ProfileTask) {s : State} {index : Nat}
    {attempt : Attempt} (hattempt : s.attempts[index]? = some attempt) {idx : Nat}
    (hscanning : attempt.progress = .scanning idx) (hslots : idx < s.profilingSegmentSlots.length) :
    ∃ s', Step maxParallel task s (.attemptStep index) s' ∧
      (s'.attempts[index]? = some { attempt with progress := .took idx } ∧
          s'.profilingSegmentSlots[idx]? = some (some ⟨index, attempt.traceContext⟩) ∨
        s'.attempts[index]? = some { attempt with progress := .scanning (idx + 1) }) := by
  have hindex := (List.getElem?_eq_some_iff.mp hattempt).1
  obtain ⟨slot, hslot⟩ : ∃ slot, s.profilingSegmentSlots[idx]? = some slot :=
    ⟨_, List.getElem?_eq_getElem hslots⟩
  unfold Step step
  cases slot with
  | none =>
      refine ⟨_, by simp only [hattempt, State.attemptStep, hscanning, hslot]; rfl, .inl ⟨?_, ?_⟩⟩
      · simp [State.setProgress, hindex]
      · simp [hslots]
  | some profiler =>
      refine ⟨_, by simp only [hattempt, State.attemptStep, hscanning, hslot]; rfl, .inr ?_⟩
      simp [State.setProgress, hindex]

theorem balanced_of_run {maxParallel : Nat} {task : ProfileTask} {actions : List Action} {s : State}
    (hrun : Run (Step maxParallel task) (State.init maxParallel) actions s) :
    Balanced maxParallel s := by
  apply hrun.invariant (I := Balanced maxParallel)
  · intro state action next hbalanced hstep
    exact hbalanced.transition (transition_of_step hstep)
  · exact Balanced.init maxParallel

/-- The count is what the slots, the scanning attempts and the pending decrement make it, and within its
limit; an occupied slot keeps its profiler until the profile thread empties it; and an attempt that raised
the count takes a slot before the slots are through. -/
theorem profiler_slots_balanced (maxParallel : Nat) (task : ProfileTask) {actions : List Action}
    {s : State} (hrun : Run (Step maxParallel task) (State.init maxParallel) actions s) :
    0 ≤ s.currentProfilingCnt ∧ s.currentProfilingCnt ≤ maxParallel ∧
    s.currentProfilingCnt = (s.occupied + s.scanning + s.pending : Nat) ∧
    (∀ action s' (idx : Nat) before after, Step maxParallel task s action s' →
      s.profilingSegmentSlots[idx]? = some (some before) →
      s'.profilingSegmentSlots[idx]? = some (some after) → after = before) ∧
    (∀ idx profiler, s.stopping = .found idx profiler →
      s.profilingSegmentSlots[idx]? = some (some profiler)) ∧
    (∀ (index : Nat) (attempt : Attempt), s.attempts[index]? = some attempt →
      attempt.progress ≠ .exhausted ∧
      ∀ idx, attempt.progress = .scanning idx → idx < maxParallel ∧
        ∃ s', Step maxParallel task s (.attemptStep index) s' ∧
          (s'.attempts[index]? = some { attempt with progress := .took idx } ∧
              s'.profilingSegmentSlots[idx]? = some (some ⟨index, attempt.traceContext⟩) ∨
            s'.attempts[index]? = some { attempt with progress := .scanning (idx + 1) })) := by
  have hbalanced := balanced_of_run hrun
  refine ⟨?_, hbalanced.limit, hbalanced.count, ?_, hbalanced.found, ?_⟩
  · rw [hbalanced.count]
    exact Int.natCast_nonneg _
  · intro action s' idx before after hstep hbefore hafter
    exact slot_of_transition (transition_of_step hstep) hbefore hafter
  · intro index attempt hattempt
    refine ⟨hbalanced.served attempt (List.mem_of_getElem? hattempt), ?_⟩
    intro idx hscanning
    have hlt := hbalanced.scanning_lt hattempt hscanning
    exact ⟨hlt, scanning_goes_on task hattempt hscanning (by rw [hbalanced.length]; exact hlt)⟩

/-- Two slots are taken and a third attempt is refused; then the first slot is freed, and a fourth
attempt has raised the count. -/
def crowdedSlots : List Action :=
  [.attemptProfiling 0 "/users", .attemptStep 0, .attemptStep 0, .attemptStep 0, .attemptStep 0,
    .attemptProfiling 1 "/users", .attemptStep 1, .attemptStep 1, .attemptStep 1, .attemptStep 1,
    .attemptStep 1, .attemptProfiling 2 "/users", .attemptStep 2, .stopTracingProfile 0, .stopStep,
    .stopStep, .stopStep, .stopStep, .attemptProfiling 3 "/users", .attemptStep 3, .attemptStep 3,
    .attemptStep 3]

theorem crowdedSlots_balanced : ∃ s,
    Run (Step 2 { firstSpanOpName := "/users", maxSamplingCount := 5 }) (State.init 2) crowdedSlots s ∧
    s.occupied = 1 ∧ s.scanning = 1 ∧ s.currentProfilingCnt = 2 ∧
    s.currentProfilingCnt = (s.occupied + s.scanning + s.pending : Nat) := by
  have hresult : ∃ s,
      Run (Step 2 { firstSpanOpName := "/users", maxSamplingCount := 5 }) (State.init 2)
        crowdedSlots s ∧
      s.occupied = 1 ∧ s.scanning = 1 ∧ s.currentProfilingCnt = 2 := by
    apply Run.exists_of_foldlM
    decide +kernel
  obtain ⟨s, hreached, hoccupied, hscanning, hcount⟩ := hresult
  obtain ⟨-, -, hbalance, -⟩ := profiler_slots_balanced 2 _ hreached
  exact ⟨s, hreached, hoccupied, hscanning, hcount, hbalance⟩

end SkyWalking.ProfileTaskExecutionContext
