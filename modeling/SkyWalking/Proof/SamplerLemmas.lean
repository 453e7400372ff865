import Mathlib
import SkyWalking.Lib.Slot
import SkyWalking.Profile.Sampler
import SkyWalking.Proof.SlotsLemmas

/-!
# Snapshots of finished requests

A profiler leaves its slot only through `stop_tracing_profile`, and the profile thread calls that only
for a dump that failed. So the segment of a profiler may have been archived long before. The runs in
which this does no harm are those whose steps are `timely`.
-/

namespace SkyWalking.ProfileThread

section Slots

variable {maxParallel : Nat} {task : ProfileTask} {t t' : ProfileTaskExecutionContext.State}

/-- What an operation of `attempt_profiling` does to the slots and what it leaves alone. -/
structure AttemptFrame (attempt : Nat) (t t' : ProfileTaskExecutionContext.State) : Prop where
  stopping : t'.stopping = t.stopping
  total : t'.totalStartedProfilingCnt = t.totalStartedProfilingCnt
  owners : t'.attempts.map ProfileTaskExecutionContext.Attempt.traceContext =
    t.attempts.map ProfileTaskExecutionContext.Attempt.traceContext
  kept : ∀ (idx : Nat) (profiler : Profiler), t.profilingSegmentSlots[idx]? = some (some profiler) →
    t'.profilingSegmentSlots[idx]? = some (some profiler)
  filled : ∀ (idx : Nat) (profiler : Profiler), t'.profilingSegmentSlots[idx]? = some (some profiler) →
    t.profilingSegmentSlots[idx]? = some (some profiler) ∨
      profiler.attempt = attempt ∧
        (t.attempts.map ProfileTaskExecutionContext.Attempt.traceContext)[attempt]? =
          some profiler.traceContext

theorem owners_setProgress {index : Nat} {attempt : ProfileTaskExecutionContext.Attempt}
    (hattempt : t.attempts[index]? = some attempt)
    (progress : ProfileTaskExecutionContext.Progress) :
    (t.setProgress index attempt progress).attempts.map
        ProfileTaskExecutionContext.Attempt.traceContext =
      t.attempts.map ProfileTaskExecutionContext.Attempt.traceContext := by
  apply List.ext_getElem?
  intro other
  simp only [ProfileTaskExecutionContext.State.setProgress, List.getElem?_map]
  by_cases hsame : index = other
  · subst hsame
    rw [List.getElem?_set_self', hattempt]
    rfl
  · rw [List.getElem?_set_ne hsame]

theorem AttemptFrame.of_setProgress {index : Nat} {attempt : ProfileTaskExecutionContext.Attempt}
    (hattempt : t.attempts[index]? = some attempt)
    (progress : ProfileTaskExecutionContext.Progress) (count : Int) :
    AttemptFrame index t
      { t.setProgress index attempt progress with currentProfilingCnt := count } :=
  ⟨rfl, rfl, owners_setProgress hattempt progress, fun _ _ h => h, fun _ _ h => .inl h⟩

theorem attemptFrame_of_step {index : Nat}
    (hstep : ProfileTaskExecutionContext.step maxParallel task t (.attemptStep index) = some t') :
    AttemptFrame index t t' := by
  cases ProfileTaskExecutionContext.transition_of_step hstep with
  | refuse _ attempt hattempt | exhaust _ attempt _ hattempt =>
      exact .of_setProgress hattempt _ t.currentProfilingCnt
  | read _ attempt hattempt | check _ attempt _ hattempt | pass _ attempt _ _ hattempt =>
      exact .of_setProgress hattempt _ t.currentProfilingCnt
  | raise _ attempt hattempt => exact .of_setProgress hattempt _ _
  | take _ attempt position hattempt _ hslot =>
      refine ⟨rfl, rfl, owners_setProgress hattempt _, ?_, ?_⟩
      · intro idx profiler hprofiler
        have hne : position ≠ idx := by
          intro heq
          rw [heq, hprofiler] at hslot
          cases hslot
        change (t.profilingSegmentSlots.set position _)[idx]? = _
        rw [List.getElem?_set_ne hne]
        exact hprofiler
      · intro idx profiler hprofiler
        change (t.profilingSegmentSlots.set position _)[idx]? = _ at hprofiler
        by_cases heq : position = idx
        · subst heq
          rw [List.getElem?_set_self', hslot] at hprofiler
          obtain rfl : (⟨index, attempt.traceContext⟩ : Profiler) = profiler := by
            simpa using hprofiler
          refine .inr ⟨rfl, ?_⟩
          rw [List.getElem?_map, hattempt]
          rfl
        · rw [List.getElem?_set_ne heq] at hprofiler
          exact .inl hprofiler

end Slots

/-- The context that an attempt was made for. -/
def State.owner (s : State) (attempt : Nat) : Option Nat :=
  (s.slots.attempts.map ProfileTaskExecutionContext.Attempt.traceContext)[attempt]?

def State.Holds (s : State) (idx : Nat) (profiler : Profiler) : Prop :=
  s.slots.profilingSegmentSlots[idx]? = some (some profiler)

/-- The slot is not occupied for a segment that was archived before the pass. -/
def State.Clean (s : State) (idx : Nat) : Prop :=
  ∀ profiler, s.Holds idx profiler → profiler.traceContext ∉ s.archivedBefore

/-- The slots that the pass is through with. -/
def Loop.Visited : Loop → Nat → Prop
  | .sleeping, _ => True
  | .passing idx, other => other < idx
  | .looking idx _, other | .looked idx _, other | .dumping idx _, other | .framing idx _, other
  | .counting idx _, other | .building idx _, other | .stopping idx _, other => other < idx
  | .ended, _ => False

/-- `stop_tracing_profile` is going to empty the slot. -/
def State.Clears (s : State) (idx : Nat) (profiler : Profiler) : Prop :=
  s.Holds idx profiler ∧ profiler.traceContext ∈ s.archivedBefore ∧
    ((∃ position, s.slots.stopping = .scanning profiler.traceContext position ∧ position ≤ idx) ∨
      ∃ found, s.slots.stopping = .found idx found)

/-- What holds while the profile thread is at a point of its loop. -/
def State.LoopOk (task : ProfileTask) (s : State) : Prop :=
  match s.loop with
  | .sleeping | .passing _ => s.slots.stopping = .idle
  | .looking idx profiler | .looked idx profiler | .dumping idx profiler | .framing idx profiler =>
      s.slots.stopping = .idle ∧ s.Holds idx profiler
  | .counting idx profiler =>
      s.slots.stopping = .idle ∧ s.Holds idx profiler ∧
        ((s.contexts.get profiler.traceContext).archived = true → s.refusesDump task profiler = true)
  | .building idx profiler =>
      s.slots.stopping = .idle ∧ s.Holds idx profiler ∧
        (s.contexts.get profiler.traceContext).archived = false
  | .stopping idx profiler => s.Clears idx profiler ∨ s.Clean idx
  | .ended => True

structure Orderly (task : ProfileTask) (s : State) : Prop where
  known : ∀ context, (s.contexts.get context).archived = true → context < s.contexts.size
  finished : ∀ context, (s.contexts.get context).archived = true →
    (s.contexts.get context).call = .idle
  calls : ∀ context attempt assigns, (s.contexts.get context).call = .attempting attempt assigns →
    s.owner attempt = some context
  owned : ∀ idx profiler, s.Holds idx profiler → s.owner profiler.attempt = some profiler.traceContext
  before : ∀ context ∈ s.archivedBefore, (s.contexts.get context).archived = true
  visited : ∀ idx, s.loop.Visited idx → s.Clean idx
  loop : s.LoopOk task
  noLate : s.NoLateSnapshot

/-- A step of an application thread, as the profile thread sees it. -/
structure AppFrame (task : ProfileTask) (s s' : State) : Prop where
  loop : s'.loop = s.loop
  before : s'.archivedBefore = s.archivedBefore
  snapshots : s'.snapshots = s.snapshots
  stopping : s'.slots.stopping = s.slots.stopping
  total : s'.slots.totalStartedProfilingCnt = s.slots.totalStartedProfilingCnt
  owners : ∀ attempt context, s.owner attempt = some context → s'.owner attempt = some context
  archived : ∀ context, (s.contexts.get context).archived = true →
    (s'.contexts.get context).archived = true
  kept : ∀ idx profiler, s.Holds idx profiler → s'.Holds idx profiler
  filled : ∀ idx profiler, s'.Holds idx profiler → s.Holds idx profiler ∨
    (s'.contexts.get profiler.traceContext).archived = false ∧
      s'.owner profiler.attempt = some profiler.traceContext
  profilers : ∀ idx profiler, s.Holds idx profiler →
    (s'.contexts.get profiler.traceContext).archived = true →
    s'.profilers.get profiler.attempt = s.profilers.get profiler.attempt
  timely : ∀ context, (s'.contexts.get context).archived = true →
    (s.contexts.get context).archived = true ∨
      ∀ idx profiler, profiler.traceContext = context →
        s.loop ≠ .building idx profiler ∧
          (s.loop = .counting idx profiler → s.refusesDump task profiler = true)

section Frame

variable {task : ProfileTask} {s s' : State}

theorem AppFrame.clean (hframe : AppFrame task s s') (horderly : Orderly task s) {idx : Nat}
    (hclean : s.Clean idx) : s'.Clean idx := by
  intro profiler hholds hbefore
  rw [hframe.before] at hbefore
  obtain hold | ⟨hopen, -⟩ := hframe.filled idx profiler hholds
  · exact hclean profiler hold hbefore
  · have harchived := hframe.archived _ (horderly.before _ hbefore)
    rw [hopen] at harchived
    cases harchived

theorem AppFrame.refusesDump (hframe : AppFrame task s s') {idx : Nat} {profiler : Profiler}
    (hholds : s.Holds idx profiler)
    (harchived : (s'.contexts.get profiler.traceContext).archived = true) :
    s'.refusesDump task profiler = s.refusesDump task profiler := by
  unfold State.refusesDump
  rw [hframe.profilers idx profiler hholds harchived, hframe.total]

theorem AppFrame.loopOk (hframe : AppFrame task s s') (horderly : Orderly task s) :
    s'.LoopOk task := by
  have hloop := horderly.loop
  unfold State.LoopOk at hloop ⊢
  rw [hframe.loop]
  cases hat : s.loop with
  | sleeping | passing =>
      simp only [hat] at hloop ⊢
      rw [hframe.stopping]
      exact hloop
  | looking idx profiler | looked idx profiler | dumping idx profiler | framing idx profiler =>
      simp only [hat] at hloop ⊢
      rw [hframe.stopping]
      exact ⟨hloop.1, hframe.kept idx profiler hloop.2⟩
  | counting idx profiler =>
      simp only [hat] at hloop ⊢
      rw [hframe.stopping]
      refine ⟨hloop.1, hframe.kept idx profiler hloop.2.1, ?_⟩
      intro harchived
      rw [hframe.refusesDump hloop.2.1 harchived]
      obtain hold | htimely := hframe.timely _ harchived
      · exact hloop.2.2 hold
      · exact (htimely idx profiler rfl).2 hat
  | building idx profiler =>
      simp only [hat] at hloop ⊢
      rw [hframe.stopping]
      refine ⟨hloop.1, hframe.kept idx profiler hloop.2.1, ?_⟩
      by_contra harchived
      obtain hold | htimely := hframe.timely _ (by simpa using harchived)
      · rw [hloop.2.2] at hold
        cases hold
      · exact (htimely idx profiler rfl).1 hat
  | stopping idx profiler =>
      simp only [hat] at hloop ⊢
      obtain ⟨hholds, hbefore, hstop⟩ | hclean := hloop
      · refine .inl ⟨hframe.kept idx profiler hholds, ?_, ?_⟩
        · rw [hframe.before]
          exact hbefore
        · rw [hframe.stopping]
          exact hstop
      · exact .inr (hframe.clean horderly hclean)
  | ended => trivial

theorem AppFrame.orderly (hframe : AppFrame task s s') (horderly : Orderly task s)
    (hknown : ∀ context, (s'.contexts.get context).archived = true → context < s'.contexts.size)
    (hfinished : ∀ context, (s'.contexts.get context).archived = true →
      (s'.contexts.get context).call = .idle)
    (hcalls : ∀ context attempt assigns,
      (s'.contexts.get context).call = .attempting attempt assigns →
        s'.owner attempt = some context) : Orderly task s' := by
  refine ⟨hknown, hfinished, hcalls, ?_, ?_, ?_, hframe.loopOk horderly, ?_⟩
  · intro idx profiler hholds
    obtain hold | ⟨-, howner⟩ := hframe.filled idx profiler hholds
    · exact hframe.owners _ _ (horderly.owned idx profiler hold)
    · exact howner
  · intro context hcontext
    rw [hframe.before] at hcontext
    exact hframe.archived context (horderly.before context hcontext)
  · intro idx hvisited
    rw [hframe.loop] at hvisited
    exact hframe.clean horderly (horderly.visited idx hvisited)
  · unfold State.NoLateSnapshot
    rw [hframe.snapshots]
    exact horderly.noLate

theorem AppFrame.of_contexts (hslots : s'.slots = s.slots) (hprofilers : s'.profilers = s.profilers)
    (hloop : s'.loop = s.loop) (hbefore : s'.archivedBefore = s.archivedBefore)
    (hsnapshots : s'.snapshots = s.snapshots)
    (harchived : ∀ context, (s.contexts.get context).archived = true →
      (s'.contexts.get context).archived = true)
    (htimely : ∀ context, (s'.contexts.get context).archived = true →
      (s.contexts.get context).archived = true ∨
        ∀ idx profiler, profiler.traceContext = context →
          s.loop ≠ .building idx profiler ∧
            (s.loop = .counting idx profiler → s.refusesDump task profiler = true)) :
    AppFrame task s s' := by
  have hholds : ∀ idx profiler, s'.Holds idx profiler ↔ s.Holds idx profiler := by
    intro idx profiler
    unfold State.Holds
    rw [hslots]
  refine ⟨hloop, hbefore, hsnapshots, by rw [hslots], by rw [hslots], ?_, harchived,
    fun idx profiler => (hholds idx profiler).mpr,
    fun idx profiler h => .inl ((hholds idx profiler).mp h), ?_, htimely⟩
  · intro attempt context howner
    unfold State.owner at howner ⊢
    rw [hslots]
    exact howner
  · intro idx profiler _ _
    rw [hprofilers]

/-- One context changes, and not whether its segment has been archived. -/
theorem Orderly.modifyContext (horderly : Orderly task s) {context : Nat}
    {f : TraceContext → TraceContext} (hcontexts : s'.contexts = s.contexts.modify context f)
    (harchived : ∀ c, (f c).archived = c.archived)
    (hcall : (f (s.contexts.get context)).call = .idle ∨
      (s.contexts.get context).archived = false ∧
        ∀ attempt assigns, (f (s.contexts.get context)).call = .attempting attempt assigns →
          s'.owner attempt = some context)
    (hframe : (∀ other, (s'.contexts.get other).archived = (s.contexts.get other).archived) →
      AppFrame task s s') : Orderly task s' := by
  have hsame : ∀ other, (s'.contexts.get other).archived = (s.contexts.get other).archived := by
    intro other
    rw [hcontexts, Store.get_modify]
    by_cases hother : other = context
    · subst hother
      rw [if_pos rfl, harchived]
    · rw [if_neg hother]
  have hframe' := hframe hsame
  refine hframe'.orderly horderly ?_ ?_ ?_
  · intro other hother
    rw [hcontexts, Store.size_modify]
    exact horderly.known other (hsame other ▸ hother)
  · intro other hother
    rw [hsame] at hother
    rw [hcontexts, Store.get_modify]
    by_cases heq : other = context
    · subst heq
      rw [if_pos rfl]
      obtain hidle | ⟨hopen, -⟩ := hcall
      · exact hidle
      · rw [hopen] at hother
        cases hother
    · rw [if_neg heq]
      exact horderly.finished other hother
  · intro other attempt assigns hother
    rw [hcontexts, Store.get_modify] at hother
    by_cases heq : other = context
    · subst heq
      rw [if_pos rfl] at hother
      obtain hidle | ⟨-, howner⟩ := hcall
      · rw [hidle] at hother
        cases hother
      · exact howner attempt assigns hother
    · rw [if_neg heq] at hother
      exact hframe'.owners attempt other (horderly.calls other attempt assigns hother)

end Frame

section App

variable {maxParallel : Nat} {task : ProfileTask} {s s' : State}

/-- Nothing but one context, the references and the like changes. -/
theorem Orderly.withContext (horderly : Orderly task s) {context : Nat}
    {f : TraceContext → TraceContext} (hcontexts : s'.contexts = s.contexts.modify context f)
    (hslots : s'.slots = s.slots) (hprofilers : s'.profilers = s.profilers)
    (hloop : s'.loop = s.loop) (hbefore : s'.archivedBefore = s.archivedBefore)
    (hsnapshots : s'.snapshots = s.snapshots) (harchived : ∀ c, (f c).archived = c.archived)
    (hcall : (f (s.contexts.get context)).call = .idle ∨
      (s.contexts.get context).archived = false ∧
        ∀ attempt assigns, (f (s.contexts.get context)).call ≠ .attempting attempt assigns) :
    Orderly task s' := by
  refine horderly.modifyContext hcontexts harchived ?_ ?_
  · exact hcall.imp_right fun h => ⟨h.1, fun attempt assigns heq => absurd heq (h.2 attempt assigns)⟩
  · intro hsame
    refine .of_contexts hslots hprofilers hloop hbefore hsnapshots ?_ ?_
    · intro other hother
      rw [hsame]
      exact hother
    · intro other hother
      rw [hsame] at hother
      exact .inl hother

theorem Orderly.setProfileStatus (horderly : Orderly task s) (references : Store ProfileStatus)
    (context reference : Nat) :
    Orderly task ({ s with references := references }.setProfileStatus context reference) :=
  horderly.withContext (f := fun c => { c with profileStatus := some reference, call := .idle })
    rfl rfl rfl rfl rfl rfl (fun _ => rfl) (.inl rfl)

theorem Orderly.setCall (horderly : Orderly task s) (references : Store ProfileStatus)
    {context : Nat} {call : Call}
    (hcall : call = .idle ∨ (s.contexts.get context).archived = false ∧
      ∀ attempt assigns, call ≠ .attempting attempt assigns) :
    Orderly task ({ s with references := references }.setCall context call) :=
  horderly.withContext (f := fun c => { c with call := call })
    rfl rfl rfl rfl rfl rfl (fun _ => rfl) hcall

theorem Orderly.addProfiling (horderly : Orderly task s) {context : Nat} {op : String}
    {assigns : Bool} (hopen : (s.contexts.get context).archived = false)
    (hstep : s.addProfiling maxParallel task context op assigns = some s') : Orderly task s' := by
  obtain ⟨s₁, hslots, rfl⟩ := Option.map_eq_some_iff.mp hstep
  obtain rfl := Option.some.inj hslots
  have howners : ∀ attempt other, s.owner attempt = some other →
      ((s.slots.attempts ++
        [(⟨context, op, .called⟩ : ProfileTaskExecutionContext.Attempt)]).map
        ProfileTaskExecutionContext.Attempt.traceContext)[attempt]? = some other := by
    intro attempt other howner
    unfold State.owner at howner
    rw [List.map_append, List.getElem?_append_left (List.getElem?_eq_some_iff.mp howner).1]
    exact howner
  refine horderly.modifyContext
    (f := fun c => { c with call := .attempting s.slots.attempts.length assigns })
    rfl (fun _ => rfl) (.inr ⟨hopen, ?_⟩) ?_
  · intro attempt assigns' hcall
    obtain ⟨rfl, -⟩ := Call.attempting.inj hcall
    change ((s.slots.attempts ++ [_]).map _)[s.slots.attempts.length]? = _
    rw [List.map_append, List.getElem?_append_right (by simp)]
    simp
  · intro hsame
    refine ⟨rfl, rfl, rfl, rfl, rfl, howners, ?_, fun _ _ h => h, fun _ _ h => .inl h,
      fun _ _ _ _ => rfl, ?_⟩
    · intro other hother
      rw [hsame]
      exact hother
    · intro other hother
      rw [hsame] at hother
      exact .inl hother

theorem Orderly.newEntrySpan (horderly : Orderly task s) {context : Nat} {op : String}
    {inherits : Bool} (hready : s.Ready context)
    (hstep : s.newEntrySpan maxParallel task context op inherits = some s') : Orderly task s' := by
  unfold State.newEntrySpan at hstep
  cases hstatus : (s.contexts.get context).profileStatus with
  | none =>
      simp only [hstatus] at hstep
      by_cases hstop : s.stopEvent = true
      · rw [if_pos hstop] at hstep
        obtain rfl := Option.some.inj hstep
        exact horderly.setProfileStatus _ context _
      · rw [if_neg hstop] at hstep
        exact horderly.addProfiling hready.2.1 hstep
  | some reference =>
      simp only [hstatus] at hstep
      split at hstep
      · exact horderly.addProfiling hready.2.1 hstep
      · obtain rfl := Option.some.inj hstep
        exact horderly

theorem construct_eq (s : State) (context attempt : Nat) :
    ∃ references profilers, s.construct context attempt =
        { s with references := references, profilers := profilers } ∧
      ∀ other, other ≠ attempt → profilers.get other = s.profilers.get other := by
  unfold State.construct
  cases (s.contexts.get context).profileStatus with
  | none => exact ⟨_, _, rfl, fun other hne => Store.get_set_of_ne _ _ hne⟩
  | some reference => exact ⟨_, _, rfl, fun other hne => Store.get_set_of_ne _ _ hne⟩

/-- An operation of `attempt_profiling` in a context that is in use. -/
theorem Orderly.attemptStep (horderly : Orderly task s) {context attempt : Nat} {assigns : Bool}
    (hcall : (s.contexts.get context).call = .attempting attempt assigns)
    {slots : ProfileTaskExecutionContext.State} (hslots : AttemptFrame attempt s.slots slots)
    {references : Store ProfileStatus} {profilers : Store ThreadProfiler}
    (hprofilers : ∀ other, other ≠ attempt → profilers.get other = s.profilers.get other) :
    Orderly task { s with slots := slots, references := references, profilers := profilers } := by
  have hopen : (s.contexts.get context).archived = false := by
    by_contra harchived
    have hidle := horderly.finished context (by simpa using harchived)
    rw [hcall] at hidle
    cases hidle
  have howner := horderly.calls context attempt assigns hcall
  have howners : ∀ other, State.owner
      { s with slots := slots, references := references, profilers := profilers } other =
        s.owner other := by
    intro other
    change (slots.attempts.map _)[other]? = _
    rw [hslots.owners]
    rfl
  have hframe : AppFrame task s
      { s with slots := slots, references := references, profilers := profilers } := by
    refine ⟨rfl, rfl, rfl, hslots.stopping, hslots.total, ?_, fun _ h => h, hslots.kept, ?_, ?_,
      fun _ h => .inl h⟩
    · intro other context' h
      rw [howners]
      exact h
    · intro idx profiler hholds
      obtain hold | ⟨heq, hnew⟩ := hslots.filled idx profiler hholds
      · exact .inl hold
      · change s.owner attempt = some profiler.traceContext at hnew
        obtain rfl := Option.some.inj (howner.symm.trans hnew)
        refine .inr ⟨hopen, ?_⟩
        rw [howners, heq]
        exact howner
    · intro idx profiler hholds harchived
      apply hprofilers
      -- the profiler in the slot belongs to a context that is over, the attempt to one in use
      rintro rfl
      have hother := horderly.owned idx profiler hholds
      obtain rfl := Option.some.inj (howner.symm.trans hother)
      change (s.contexts.get profiler.traceContext).archived = true at harchived
      rw [hopen] at harchived
      cases harchived
  refine hframe.orderly horderly horderly.known horderly.finished ?_
  intro other attempt' assigns' h
  rw [howners]
  exact horderly.calls other attempt' assigns' h

theorem Orderly.attempt (horderly : Orderly task s) {context : Nat}
    (hstep : s.attempt maxParallel task context = some s') : Orderly task s' := by
  unfold State.attempt at hstep
  cases hcall : (s.contexts.get context).call with
  | idle => simp [hcall] at hstep
  | updating status => simp [hcall] at hstep
  | attempting attempt assigns =>
      simp only [hcall] at hstep
      obtain ⟨s₁, hslots, hnext⟩ := Option.map_eq_some_iff.mp hstep
      obtain ⟨slots, hslotStep, rfl⟩ := Option.map_eq_some_iff.mp hslots
      have hframe := attemptFrame_of_step hslotStep
      split at hnext
      · obtain ⟨references, profilers, heq, hothers⟩ :=
          construct_eq { s with slots := slots } context attempt
        rw [← hnext, heq]
        exact horderly.attemptStep hcall hframe hothers
      · rw [← hnext]
        exact horderly.attemptStep hcall hframe fun _ _ => rfl

theorem Orderly.settle (horderly : Orderly task s) {context : Nat}
    (hstep : s.settle context = some s') : Orderly task s' := by
  have hopen : ∀ {attempt : Nat} {assigns : Bool},
      (s.contexts.get context).call = .attempting attempt assigns →
        (s.contexts.get context).archived = false := by
    intro attempt assigns hcall
    by_contra harchived
    have hidle := horderly.finished context (by simpa using harchived)
    rw [hcall] at hidle
    cases hidle
  unfold State.settle at hstep
  cases hcall : (s.contexts.get context).call with
  | idle => simp [hcall] at hstep
  | attempting attempt assigns =>
      simp only [hcall] at hstep
      have hupdating : ∀ status, Orderly task (s.setCall context (.updating status)) :=
        fun status => horderly.setCall s.references (.inr ⟨hopen hcall, fun _ _ h => (by cases h)⟩)
      split at hstep
      · split at hstep
        · obtain rfl := Option.some.inj hstep
          exact horderly.setProfileStatus s.references context _
        · obtain rfl := Option.some.inj hstep
          exact hupdating _
      · split at hstep
        · obtain rfl := Option.some.inj hstep
          exact horderly.setProfileStatus _ context _
        · obtain rfl := Option.some.inj hstep
          exact hupdating _
      · split at hstep
        · obtain rfl := Option.some.inj hstep
          exact horderly.setProfileStatus _ context _
        · obtain rfl := Option.some.inj hstep
          exact hupdating _
      · cases hstep
  | updating status =>
      simp only [hcall] at hstep
      split at hstep
      · cases hstep
      · obtain rfl := Option.some.inj hstep
        exact horderly.setCall _ (.inl rfl)

theorem Orderly.stopSpan (horderly : Orderly task s) {context : Nat} (hready : s.Ready context)
    (htimely : s.timely task (.app (.stopSpan context)) = true) : Orderly task (s.stopSpan context) := by
  have hget : ∀ other, ((s.stopSpan context).contexts.get other).call =
      (s.contexts.get other).call := by
    intro other
    unfold State.stopSpan
    rw [Store.get_modify]
    split <;> rfl
  have harchived : ∀ other, (s.contexts.get other).archived = true →
      ((s.stopSpan context).contexts.get other).archived = true := by
    intro other hother
    have hne : other ≠ context := by
      rintro rfl
      rw [hready.2.1] at hother
      cases hother
    unfold State.stopSpan
    rw [Store.get_modify_of_ne _ _ hne]
    exact hother
  have hnew : ∀ other, ((s.stopSpan context).contexts.get other).archived = true →
      (s.contexts.get other).archived = true ∨
        other = context ∧ (s.contexts.get context).nspans - 1 = 0 := by
    intro other hother
    unfold State.stopSpan at hother
    by_cases heq : other = context
    · subst heq
      rw [Store.get_modify_self] at hother
      exact .inr ⟨rfl, by simpa using hother⟩
    · rw [Store.get_modify_of_ne _ _ heq] at hother
      exact .inl hother
  have hframe : AppFrame task s (s.stopSpan context) := by
    refine .of_contexts rfl rfl rfl rfl rfl harchived ?_
    intro other hother
    obtain hold | ⟨rfl, hlast⟩ := hnew other hother
    · exact .inl hold
    · refine .inr ?_
      rintro idx profiler hcontext
      unfold State.timely at htimely
      refine ⟨?_, ?_⟩
      · intro hloop
        simp [hlast, hloop, hcontext] at htimely
      · intro hloop
        simpa [hlast, hloop, hcontext] using htimely
  refine hframe.orderly horderly ?_ ?_ ?_
  · intro other hother
    change other < (s.contexts.modify context _).size
    rw [Store.size_modify]
    obtain hold | ⟨rfl, -⟩ := hnew other hother
    · exact horderly.known other hold
    · exact hready.1
  · intro other hother
    rw [hget]
    obtain hold | ⟨rfl, -⟩ := hnew other hother
    · exact horderly.finished other hold
    · exact hready.2.2.1
  · intro other attempt assigns hcall
    rw [hget] at hcall
    exact horderly.calls other attempt assigns hcall

theorem Orderly.getContext (horderly : Orderly task s) (thread : Nat) :
    Orderly task { s with contexts := s.contexts.alloc { thread := thread } } := by
  have hsame : ∀ other, ((s.contexts.alloc { thread := thread }).get other).archived =
      (s.contexts.get other).archived := by
    intro other
    rw [Store.get_alloc]
    split
    · next heq =>
        by_contra harchived
        have hlt := horderly.known other (by simpa using Ne.symm harchived)
        omega
    · rfl
  have hframe : AppFrame task s { s with contexts := s.contexts.alloc { thread := thread } } := by
    refine .of_contexts rfl rfl rfl rfl rfl ?_ ?_
    · intro other hother
      exact (hsame other).trans hother
    · intro other hother
      exact .inl ((hsame other).symm.trans hother)
  refine hframe.orderly horderly ?_ ?_ ?_
  · intro other hother
    change other < (s.contexts.alloc { thread := thread }).size
    have hlt := horderly.known other ((hsame other).symm.trans hother)
    rw [Store.size_alloc]
    omega
  · intro other hother
    have hold := (hsame other).symm.trans hother
    have hlt := horderly.known other hold
    change ((s.contexts.alloc { thread := thread }).get other).call = _
    rw [Store.get_alloc_of_lt _ _ hlt]
    exact horderly.finished other hold
  · intro other attempt assigns hcall
    change ((s.contexts.alloc { thread := thread }).get other).call = _ at hcall
    rw [Store.get_alloc] at hcall
    split at hcall
    · cases hcall
    · exact horderly.calls other attempt assigns hcall

/-- The fields that the profile thread and the slots do not read. -/
theorem Orderly.withEnded (horderly : Orderly task s) (endedThreads : List Nat) (stopEvent : Bool) :
    Orderly task { s with endedThreads := endedThreads, stopEvent := stopEvent } :=
  ⟨horderly.known, horderly.finished, horderly.calls, horderly.owned, horderly.before,
    horderly.visited, horderly.loop, horderly.noLate⟩

theorem Orderly.appStep (horderly : Orderly task s) {action : AppAction}
    (htimely : s.timely task (.app action) = true)
    (hstep : s.appStep maxParallel task action = some s') : Orderly task s' := by
  unfold State.appStep at hstep
  cases action with
  | getContext thread =>
      simp only at hstep
      split at hstep
      · obtain rfl := Option.some.inj hstep
        exact horderly.getContext thread
      · cases hstep
  | newEntrySpan context op inherits =>
      simp only at hstep
      split at hstep
      · next hready => exact horderly.newEntrySpan hready hstep
      · cases hstep
  | attempt context => exact horderly.attempt hstep
  | settle context => exact horderly.settle hstep
  | startSpan context =>
      simp only at hstep
      split at hstep
      · next hready =>
          obtain rfl := Option.some.inj hstep
          exact horderly.withContext (f := fun c => { c with nspans := c.nspans + 1 })
            rfl rfl rfl rfl rfl rfl (fun _ => rfl) (.inl hready.2.2.1)
      · cases hstep
  | stopSpan context =>
      simp only at hstep
      split at hstep
      · next hready =>
          obtain rfl := Option.some.inj hstep
          exact horderly.stopSpan hready.1 htimely
      · cases hstep
  | endThread thread =>
      simp only at hstep
      split at hstep
      · obtain rfl := Option.some.inj hstep
        exact horderly.withEnded _ s.stopEvent
      · cases hstep

end App

section Profile

variable {maxParallel : Nat} {task : ProfileTask} {s s' : State} {idx : Nat} {profiler : Profiler}

theorem clean_of_holds (hholds : s.Holds idx profiler)
    (hnot : profiler.traceContext ∉ s.archivedBefore) : s.Clean idx := by
  intro other hother
  obtain rfl : profiler = other := by simpa using hholds.symm.trans hother
  exact hnot

theorem Orderly.goTo (horderly : Orderly task s) (references : Store ProfileStatus) (loop : Loop)
    (hvisited : ∀ other, loop.Visited other → s.Clean other)
    (hok : { s with references := references, loop := loop }.LoopOk task) :
    Orderly task { s with references := references, loop := loop } :=
  ⟨horderly.known, horderly.finished, horderly.calls, horderly.owned, horderly.before, hvisited, hok,
    horderly.noLate⟩

theorem Orderly.next (horderly : Orderly task s) (references : Store ProfileStatus)
    (hidle : s.slots.stopping = .idle) (hvisited : ∀ other < idx, s.Clean other)
    (hclean : s.Clean idx) :
    Orderly task { s with references := references, loop := .passing (idx + 1) } := by
  refine horderly.goTo references _ ?_ hidle
  intro other hother
  obtain hlt | rfl := Nat.lt_succ_iff_lt_or_eq.mp hother
  · exact hvisited other hlt
  · exact hclean

theorem Orderly.die (horderly : Orderly task s) : Orderly task s.die :=
  (horderly.goTo s.references .ended (fun _ h => h.elim) trivial).withEnded _ true

theorem Orderly.startPass (horderly : Orderly task s) (hloop : s.loop = .sleeping) :
    Orderly task { s with loop := .passing 0, archivedBefore := s.archived } := by
  have hidle := horderly.loop
  simp only [State.LoopOk, hloop] at hidle
  refine ⟨horderly.known, horderly.finished, horderly.calls, horderly.owned, ?_, ?_, hidle,
    horderly.noLate⟩
  · intro context hcontext
    exact (List.mem_filter.mp hcontext).2
  · intro other hother
    exact absurd hother (Nat.not_lt_zero other)

theorem Orderly.giveUp (horderly : Orderly task s) (hvisited : ∀ other < idx, s.Clean other)
    (hholds : s.Holds idx profiler) (hstep : s.giveUp maxParallel task idx profiler = some s') :
    Orderly task s' := by
  obtain ⟨slots, hslots, rfl⟩ := Option.map_eq_some_iff.mp hstep
  cases ProfileTaskExecutionContext.transition_of_step hslots with
  | search _ hidle =>
      refine ⟨horderly.known, horderly.finished, horderly.calls, horderly.owned, horderly.before,
        hvisited, ?_, horderly.noLate⟩
      by_cases hbefore : profiler.traceContext ∈ s.archivedBefore
      · exact .inl ⟨hholds, hbefore, .inl ⟨0, rfl, Nat.zero_le idx⟩⟩
      · exact .inr (clean_of_holds hholds hbefore)

theorem Orderly.buildSnapshot (horderly : Orderly task s) (hloop : s.loop = .building idx profiler) :
    Orderly task (s.buildSnapshot idx profiler) := by
  have hok := horderly.loop
  simp only [State.LoopOk, hloop] at hok
  obtain ⟨hidle, hholds, hopen⟩ := hok
  have hclean : s.Clean idx := by
    refine clean_of_holds hholds fun hbefore => ?_
    have harchived := horderly.before _ hbefore
    rw [hopen] at harchived
    cases harchived
  have hvisited : ∀ other < idx, s.Clean other := by
    intro other hother
    apply horderly.visited
    rw [hloop]
    exact hother
  refine ⟨horderly.known, horderly.finished, horderly.calls, horderly.owned, horderly.before,
    (horderly.next s.references hidle hvisited hclean).visited, hidle, ?_⟩
  intro snapshot hsnapshot
  obtain hold | hnew := List.mem_append.mp hsnapshot
  · exact horderly.noLate snapshot hold
  · obtain rfl := List.mem_singleton.mp hnew
    exact hopen

/-- A slot that is going to be emptied is the first that `stop_tracing_profile` finds. -/
theorem clears_or_clean_of_stopStep (horderly : Orderly task s)
    (hloop : s.loop = .stopping idx profiler) (references : Store ProfileStatus)
    {slots : ProfileTaskExecutionContext.State}
    (h : ProfileTaskExecutionContext.Transition maxParallel s.slots .stopStep slots)
    (hkept : ∀ other q, slots.profilingSegmentSlots[other]? = some (some q) → s.Holds other q) :
    State.Clears { s with references := references, slots := slots } idx profiler ∨
      State.Clean { s with references := references, slots := slots } idx := by
  have hok := horderly.loop
  simp only [State.LoopOk, hloop] at hok
  obtain ⟨hholds, hbefore, hstop⟩ | hclean := hok
  · cases h with
    | advance traceContext position hstopping hother =>
        obtain ⟨position', hscanning, hle⟩ | ⟨found, hfound⟩ := hstop
        · obtain ⟨rfl, rfl⟩ :=
            ProfileTaskExecutionContext.Stopping.scanning.inj (hstopping.symm.trans hscanning)
          have hne : position ≠ idx := by
            rintro rfl
            exact hother profiler hholds rfl
          exact .inl ⟨hholds, hbefore, .inl ⟨position + 1, rfl, by omega⟩⟩
        · cases hstopping.symm.trans hfound
    | miss traceContext position hstopping hend =>
        obtain ⟨position', hscanning, hle⟩ | ⟨found, hfound⟩ := hstop
        · obtain ⟨rfl, rfl⟩ :=
            ProfileTaskExecutionContext.Stopping.scanning.inj (hstopping.symm.trans hscanning)
          have hlength := List.getElem?_eq_none_iff.mp hend
          have hlt := (List.getElem?_eq_some_iff.mp hholds).1
          omega
        · cases hstopping.symm.trans hfound
    | find traceContext position other hstopping hslot hmatch =>
        obtain ⟨position', hscanning, hle⟩ | ⟨found, hfound⟩ := hstop
        · obtain ⟨rfl, rfl⟩ :=
            ProfileTaskExecutionContext.Stopping.scanning.inj (hstopping.symm.trans hscanning)
          -- an earlier slot was passed, so it is not occupied for this segment
          have hsame : position = idx := by
            by_contra hne
            have hvisited : s.loop.Visited position := by
              rw [hloop]
              change position < idx
              omega
            have hnot := horderly.visited position hvisited other hslot
            rw [hmatch] at hnot
            exact hnot hbefore
          subst hsame
          exact .inl ⟨hholds, hbefore, .inr ⟨other, rfl⟩⟩
        · cases hstopping.symm.trans hfound
    | clear position other hstopping =>
        obtain ⟨position', hscanning, hle⟩ | ⟨found, hfound⟩ := hstop
        · cases hstopping.symm.trans hscanning
        · obtain ⟨rfl, rfl⟩ :=
            ProfileTaskExecutionContext.Stopping.found.inj (hstopping.symm.trans hfound)
          refine .inr ?_
          intro q hq
          change (s.slots.profilingSegmentSlots.set position none)[position]? = _ at hq
          rw [List.getElem?_set_self', hholds] at hq
          simp at hq
    | stop other hstopping =>
        obtain ⟨position', hscanning, hle⟩ | ⟨found, hfound⟩ := hstop
        · cases hstopping.symm.trans hscanning
        · cases hstopping.symm.trans hfound
    | lower hstopping =>
        obtain ⟨position', hscanning, hle⟩ | ⟨found, hfound⟩ := hstop
        · cases hstopping.symm.trans hscanning
        · cases hstopping.symm.trans hfound
  · exact .inr fun q hq => hclean q (hkept idx q hq)

theorem stopStep_slots {t t' : ProfileTaskExecutionContext.State}
    (h : ProfileTaskExecutionContext.Transition maxParallel t .stopStep t') :
    t'.attempts = t.attempts ∧
      ∀ (other : Nat) (q : Profiler), t'.profilingSegmentSlots[other]? = some (some q) →
        t.profilingSegmentSlots[other]? = some (some q) := by
  cases h with
  | advance | miss | find | stop | lower => exact ⟨rfl, fun _ _ hq => hq⟩
  | clear position found hfound =>
      refine ⟨rfl, ?_⟩
      intro other q hq
      change (t.profilingSegmentSlots.set position none)[other]? = _ at hq
      by_cases heq : position = other
      · subst heq
        rw [List.getElem?_set_self'] at hq
        cases hslot : t.profilingSegmentSlots[position]? <;> simp [hslot] at hq
      · rw [List.getElem?_set_ne heq] at hq
        exact hq

theorem Orderly.stopOnSlots (horderly : Orderly task s) (hloop : s.loop = .stopping idx profiler)
    (references : Store ProfileStatus)
    (hstep : State.onSlots maxParallel task { s with references := references } .stopStep =
      some s') : Orderly task s' := by
  obtain ⟨slots, hslots, rfl⟩ := Option.map_eq_some_iff.mp hstep
  have htransition := ProfileTaskExecutionContext.transition_of_step hslots
  obtain ⟨hattempts, hkept⟩ := stopStep_slots htransition
  have hok := clears_or_clean_of_stopStep horderly hloop references htransition hkept
  have howner : ∀ attempt, State.owner { s with references := references, slots := slots } attempt =
      s.owner attempt := by
    intro attempt
    unfold State.owner
    rw [hattempts]
  refine ⟨horderly.known, horderly.finished, ?_, ?_, horderly.before, ?_, ?_, horderly.noLate⟩
  · intro context attempt assigns hcall
    rw [howner]
    exact horderly.calls context attempt assigns hcall
  · intro other q hq
    rw [howner]
    exact horderly.owned other q (hkept other q hq)
  · intro other hvisited q hq
    exact horderly.visited other hvisited q (hkept other q hq)
  · change State.LoopOk task { s with references := references, slots := slots }
    unfold State.LoopOk
    rw [hloop]
    exact hok

theorem Orderly.stopStep (horderly : Orderly task s) (hloop : s.loop = .stopping idx profiler)
    (hstep : s.stopStep maxParallel task idx = some s') : Orderly task s' := by
  unfold State.stopStep at hstep
  cases hstopping : s.slots.stopping with
  | idle =>
      simp only [hstopping] at hstep
      obtain rfl := Option.some.inj hstep
      have hok := horderly.loop
      simp only [State.LoopOk, hloop] at hok
      have hvisited : ∀ other < idx, s.Clean other := by
        intro other hother
        apply horderly.visited
        rw [hloop]
        exact hother
      obtain ⟨-, -, ⟨position, hscanning, -⟩ | ⟨found, hfound⟩⟩ | hclean := hok
      · cases hstopping.symm.trans hscanning
      · cases hstopping.symm.trans hfound
      · exact horderly.next s.references hstopping hvisited hclean
  | cleared stopped =>
      simp only [hstopping] at hstep
      split at hstep
      · obtain rfl := Option.some.inj hstep
        exact horderly.die
      · exact horderly.stopOnSlots hloop _ hstep
  | scanning | found | stopped =>
      simp only [hstopping] at hstep
      exact horderly.stopOnSlots hloop s.references hstep

theorem Orderly.looking (horderly : Orderly task s) (hloop : s.loop = .looking idx profiler)
    (elapsed : Bool) (htimely : s.timely task (.profile elapsed) = true)
    (hstep : s.profileStep maxParallel task elapsed = some s') : Orderly task s' := by
  have hok := horderly.loop
  simp only [State.LoopOk, hloop] at hok
  obtain ⟨hidle, hholds⟩ := hok
  have hvisited := horderly.visited
  rw [hloop] at hvisited
  simp only [State.profileStep, hloop] at hstep
  split at hstep
  · next hpending =>
      have hclean : s.Clean idx := by
        apply clean_of_holds hholds
        simpa [State.timely, hloop, hpending] using htimely
      obtain rfl := Option.some.inj hstep
      unfold State.startProfilingIfNeed
      split
      · split
        · exact horderly.die
        · exact horderly.next _ hidle hvisited hclean
      · exact horderly.next s.references hidle hvisited hclean
  · obtain rfl := Option.some.inj hstep
    exact horderly.goTo s.references _ hvisited ⟨hidle, hholds⟩

theorem Orderly.looked (horderly : Orderly task s) (hloop : s.loop = .looked idx profiler)
    (elapsed : Bool) (htimely : s.timely task (.profile elapsed) = true)
    (hstep : s.profileStep maxParallel task elapsed = some s') : Orderly task s' := by
  have hok := horderly.loop
  simp only [State.LoopOk, hloop] at hok
  obtain ⟨hidle, hholds⟩ := hok
  have hvisited := horderly.visited
  rw [hloop] at hvisited
  simp only [State.profileStep, hloop] at hstep
  split at hstep
  · obtain rfl := Option.some.inj hstep
    exact horderly.goTo s.references _ hvisited ⟨hidle, hholds⟩
  · next hother =>
      obtain rfl := Option.some.inj hstep
      refine horderly.next s.references hidle hvisited (clean_of_holds hholds ?_)
      simpa [State.timely, hloop, hother] using htimely

theorem Orderly.framing (horderly : Orderly task s) (hloop : s.loop = .framing idx profiler)
    (elapsed : Bool) (htimely : s.timely task (.profile elapsed) = true)
    (hstep : s.profileStep maxParallel task elapsed = some s') : Orderly task s' := by
  have hok := horderly.loop
  simp only [State.LoopOk, hloop] at hok
  obtain ⟨hidle, hholds⟩ := hok
  have hvisited := horderly.visited
  rw [hloop] at hvisited
  simp only [State.profileStep, hloop] at hstep
  split at hstep
  · next halive =>
      obtain rfl := Option.some.inj hstep
      refine horderly.goTo s.references _ hvisited ⟨hidle, hholds, ?_⟩
      intro harchived
      change (s.contexts.get profiler.traceContext).archived = true at harchived
      change s.refusesDump task profiler = true
      simpa [State.timely, hloop, halive, harchived] using htimely
  · exact horderly.giveUp hvisited hholds hstep

theorem Orderly.counting (horderly : Orderly task s) (hloop : s.loop = .counting idx profiler)
    (elapsed : Bool) (hstep : s.profileStep maxParallel task elapsed = some s') :
    Orderly task s' := by
  have hok := horderly.loop
  simp only [State.LoopOk, hloop] at hok
  obtain ⟨hidle, hholds, hrefuses⟩ := hok
  have hvisited := horderly.visited
  rw [hloop] at hvisited
  have hopen : ¬ ((s.profilers.get profiler.attempt).dumpSequence = 0 ∧
      task.maxSamplingCount ≤ s.slots.totalStartedProfilingCnt) →
        (s.contexts.get profiler.traceContext).archived = false := by
    intro hpasses
    by_contra harchived
    exact hpasses (by simpa [State.refusesDump] using hrefuses (by simpa using harchived))
  simp only [State.profileStep, hloop] at hstep
  split at hstep
  · simp only [State.onSlots, ProfileTaskExecutionContext.step, if_pos hidle, Option.map_some]
      at hstep
    split at hstep
    · next hlimit =>
        obtain rfl := Option.some.inj hstep
        have hbuilding : (s.contexts.get profiler.traceContext).archived = false :=
          hopen (by omega)
        exact ⟨horderly.known, horderly.finished, horderly.calls, horderly.owned, horderly.before,
          hvisited, ⟨hidle, hholds, hbuilding⟩, horderly.noLate⟩
    · refine Orderly.giveUp (s := { s with slots := { s.slots with
        totalStartedProfilingCnt := s.slots.totalStartedProfilingCnt + 1 }, loop := .passing idx })
        ?_ hvisited hholds hstep
      exact ⟨horderly.known, horderly.finished, horderly.calls, horderly.owned, horderly.before,
        hvisited, hidle, horderly.noLate⟩
  · next hlater =>
      obtain rfl := Option.some.inj hstep
      exact horderly.goTo s.references _ hvisited ⟨hidle, hholds, hopen fun h => hlater h.1⟩

theorem Orderly.passing (horderly : Orderly task s) (hloop : s.loop = .passing idx) (elapsed : Bool)
    (hstep : s.profileStep maxParallel task elapsed = some s') : Orderly task s' := by
  have hidle := horderly.loop
  simp only [State.LoopOk, hloop] at hidle
  have hvisited := horderly.visited
  rw [hloop] at hvisited
  simp only [State.profileStep, hloop] at hstep
  split at hstep
  · next hend =>
      obtain rfl := Option.some.inj hstep
      refine horderly.goTo s.references _ ?_ hidle
      intro other _
      by_cases hlt : other < idx
      · exact hvisited other hlt
      · intro q hq
        have hlength := List.getElem?_eq_none_iff.mp hend
        have hbound := (List.getElem?_eq_some_iff.mp hq).1
        omega
  · next hempty =>
      obtain rfl := Option.some.inj hstep
      refine horderly.next s.references hidle hvisited ?_
      intro q hq
      cases hempty.symm.trans hq
  · next profiler hslot =>
      obtain rfl := Option.some.inj hstep
      exact horderly.goTo s.references _ hvisited ⟨hidle, hslot⟩

theorem Orderly.profileStep (horderly : Orderly task s) {elapsed : Bool}
    (htimely : s.timely task (.profile elapsed) = true)
    (hstep : s.profileStep maxParallel task elapsed = some s') : Orderly task s' := by
  cases hloop : s.loop with
  | sleeping =>
      simp only [State.profileStep, hloop] at hstep
      split at hstep
      · obtain rfl := Option.some.inj hstep
        exact horderly.goTo s.references .ended (fun _ h => h.elim) trivial
      · obtain rfl := Option.some.inj hstep
        exact horderly.startPass hloop
  | passing idx => exact horderly.passing hloop elapsed hstep
  | looking idx profiler => exact horderly.looking hloop elapsed htimely hstep
  | looked idx profiler => exact horderly.looked hloop elapsed htimely hstep
  | dumping idx profiler =>
      have hok := horderly.loop
      simp only [State.LoopOk, hloop] at hok
      have hvisited := horderly.visited
      rw [hloop] at hvisited
      simp only [State.profileStep, hloop] at hstep
      split at hstep
      · obtain rfl := Option.some.inj hstep
        exact horderly.goTo s.references _ hvisited hok
      · exact horderly.giveUp hvisited hok.2 hstep
  | framing idx profiler => exact horderly.framing hloop elapsed htimely hstep
  | counting idx profiler => exact horderly.counting hloop elapsed hstep
  | building idx profiler =>
      simp only [State.profileStep, hloop] at hstep
      obtain rfl := Option.some.inj hstep
      exact horderly.buildSnapshot hloop
  | stopping idx profiler =>
      simp only [State.profileStep, hloop] at hstep
      exact horderly.stopStep hloop hstep
  | ended => simp [State.profileStep, hloop] at hstep

theorem Orderly.step {action : Action} (horderly : Orderly task s)
    (htimely : s.timely task action = true)
    (hstep : Step maxParallel task s action s') : Orderly task s' := by
  unfold Step ProfileThread.step at hstep
  cases action with
  | app action => exact horderly.appStep htimely hstep
  | profile elapsed => exact horderly.profileStep htimely hstep
  | stopProfiling =>
      obtain rfl := Option.some.inj hstep
      exact horderly.withEnded s.endedThreads true

end Profile

theorem Orderly.init (maxParallel : Nat) (task : ProfileTask) :
    Orderly task (State.init maxParallel) := by
  have hslots : ∀ (idx : Nat) (profiler : Profiler),
      ¬ (State.init maxParallel).Holds idx profiler := by
    intro idx profiler hholds
    have hmem := List.mem_of_getElem? hholds
    cases List.eq_of_mem_replicate hmem
  refine ⟨fun _ h => (by cases h), fun _ h => (by cases h), fun _ _ _ h => (by cases h),
    fun idx profiler h => absurd h (hslots idx profiler), fun _ h => (by cases h),
    fun idx _ profiler h => absurd h (hslots idx profiler), rfl, fun _ h => (by cases h)⟩

/-- In a run whose steps are timely no snapshot is built for a segment that has been archived, and at the
end of a pass no slot is occupied for a segment that was archived before it. -/
theorem timely_runs_profile_no_finished_request (maxParallel : Nat) (task : ProfileTask)
    {actions : List Action} {s : State}
    (hrun : Run (Guarded (fun s action => s.timely task action = true) (Step maxParallel task))
      (State.init maxParallel) actions s) : s.NoLateSnapshot ∧ s.Released := by
  have horderly : Orderly task s := by
    apply hrun.invariant (I := Orderly task)
    · intro state action next horderly hstep
      exact horderly.step hstep.1 hstep.2
    · exact Orderly.init maxParallel task
  refine ⟨horderly.noLate, ?_⟩
  intro hloop idx profiler hholds
  have hvisited := horderly.visited idx
  rw [hloop] at hvisited
  exact hvisited trivial profiler hholds

/-! The slots of the profile thread are those of `ProfileTaskExecutionContext`: every step does some of
its operations, so what holds in every run of these holds here. -/

section Refinement

variable {maxParallel : Nat} {task : ProfileTask} {s s' : State}

/-- The operations on the slots that lead from one state to the other. -/
def SlotRun (maxParallel : Nat) (task : ProfileTask) (s s' : State) : Prop :=
  ∃ operations, Run (ProfileTaskExecutionContext.Step maxParallel task) s.slots operations s'.slots

theorem SlotRun.of_eq (h : s'.slots = s.slots) : SlotRun maxParallel task s s' :=
  ⟨[], by rw [h]; exact Run.nil _⟩

theorem SlotRun.trans {s₁ : State} (hfirst : SlotRun maxParallel task s s₁)
    (hsecond : SlotRun maxParallel task s₁ s') : SlotRun maxParallel task s s' := by
  obtain ⟨first, hfirst⟩ := hfirst
  obtain ⟨second, hsecond⟩ := hsecond
  exact ⟨first ++ second, hfirst.append hsecond⟩

theorem SlotRun.of_onSlots {action : ProfileTaskExecutionContext.Action}
    (hstep : s.onSlots maxParallel task action = some s') : SlotRun maxParallel task s s' := by
  obtain ⟨slots, hslots, rfl⟩ := Option.map_eq_some_iff.mp hstep
  exact ⟨[action], Run.single hslots⟩

theorem SlotRun.of_giveUp {idx : Nat} {profiler : Profiler}
    (hstep : s.giveUp maxParallel task idx profiler = some s') : SlotRun maxParallel task s s' := by
  unfold State.giveUp at hstep
  have hslots := SlotRun.of_onSlots hstep
  exact hslots

theorem SlotRun.of_addProfiling {context : Nat} {op : String} {assigns : Bool}
    (hstep : s.addProfiling maxParallel task context op assigns = some s') :
    SlotRun maxParallel task s s' := by
  obtain ⟨s₁, hslots, rfl⟩ := Option.map_eq_some_iff.mp hstep
  exact (SlotRun.of_onSlots hslots).trans (SlotRun.of_eq rfl)

theorem SlotRun.of_newEntrySpan {context : Nat} {op : String} {inherits : Bool}
    (hstep : s.newEntrySpan maxParallel task context op inherits = some s') :
    SlotRun maxParallel task s s' := by
  unfold State.newEntrySpan at hstep
  split at hstep
  · split at hstep
    · obtain rfl := Option.some.inj hstep
      exact .of_eq rfl
    · exact .of_addProfiling hstep
  · split at hstep
    · exact .of_addProfiling hstep
    · obtain rfl := Option.some.inj hstep
      exact .of_eq rfl

theorem SlotRun.of_attempt {context : Nat} (hstep : s.attempt maxParallel task context = some s') :
    SlotRun maxParallel task s s' := by
  unfold State.attempt at hstep
  split at hstep
  · next attempt _ _ =>
      obtain ⟨s₁, hslots, hnext⟩ := Option.map_eq_some_iff.mp hstep
      refine (SlotRun.of_onSlots hslots).trans (SlotRun.of_eq ?_)
      split at hnext
      · obtain ⟨references, profilers, heq, -⟩ := construct_eq s₁ context attempt
        rw [← hnext, heq]
      · rw [← hnext]
  · cases hstep

theorem SlotRun.of_settle {context : Nat} (hstep : s.settle context = some s') :
    SlotRun maxParallel task s s' := by
  apply SlotRun.of_eq
  unfold State.settle at hstep
  split at hstep
  · cases hstep
  · split at hstep <;> (try split at hstep) <;> cases hstep <;> rfl
  · split at hstep <;> cases hstep
    rfl

theorem SlotRun.of_appStep {action : AppAction}
    (hstep : s.appStep maxParallel task action = some s') : SlotRun maxParallel task s s' := by
  unfold State.appStep at hstep
  cases action with
  | newEntrySpan context op inherits =>
      simp only at hstep
      split at hstep
      · exact .of_newEntrySpan hstep
      · cases hstep
  | attempt context => exact .of_attempt hstep
  | settle context => exact .of_settle hstep
  | getContext | startSpan | stopSpan | endThread =>
      simp only at hstep
      split at hstep
      · obtain rfl := Option.some.inj hstep
        exact .of_eq rfl
      · cases hstep

theorem SlotRun.of_stopStep {idx : Nat} (hstep : s.stopStep maxParallel task idx = some s') :
    SlotRun maxParallel task s s' := by
  unfold State.stopStep at hstep
  split at hstep
  · obtain rfl := Option.some.inj hstep
    exact .of_eq rfl
  · split at hstep
    · obtain rfl := Option.some.inj hstep
      exact .of_eq rfl
    · have hslots := SlotRun.of_onSlots hstep
      exact hslots
  · exact .of_onSlots hstep

theorem SlotRun.of_profileStep {elapsed : Bool}
    (hstep : s.profileStep maxParallel task elapsed = some s') : SlotRun maxParallel task s s' := by
  unfold State.profileStep at hstep
  split at hstep
  · split at hstep <;> cases hstep <;> exact .of_eq rfl
  · split at hstep <;> cases hstep <;> exact .of_eq rfl
  · split at hstep
    · obtain rfl := Option.some.inj hstep
      apply SlotRun.of_eq
      unfold State.startProfilingIfNeed
      split
      · split <;> rfl
      · rfl
    · obtain rfl := Option.some.inj hstep
      exact .of_eq rfl
  · split at hstep <;> cases hstep <;> exact .of_eq rfl
  · split at hstep
    · obtain rfl := Option.some.inj hstep
      exact .of_eq rfl
    · exact .of_giveUp hstep
  · split at hstep
    · obtain rfl := Option.some.inj hstep
      exact .of_eq rfl
    · exact .of_giveUp hstep
  · split at hstep
    · split at hstep
      · cases hstep
      · next s₁ hslots =>
          refine (SlotRun.of_onSlots hslots).trans ?_
          split at hstep
          · obtain rfl := Option.some.inj hstep
            exact .of_eq rfl
          · exact .of_giveUp hstep
    · obtain rfl := Option.some.inj hstep
      exact .of_eq rfl
  · obtain rfl := Option.some.inj hstep
    exact .of_eq rfl
  · exact .of_stopStep hstep
  · cases hstep

theorem SlotRun.of_step {action : Action} (hstep : Step maxParallel task s action s') :
    SlotRun maxParallel task s s' := by
  unfold Step step at hstep
  cases action with
  | app action => exact .of_appStep hstep
  | profile elapsed => exact .of_profileStep hstep
  | stopProfiling =>
      obtain rfl := Option.some.inj hstep
      exact .of_eq rfl

/-- Whatever the application threads and the profile thread do, the slots stay balanced. -/
theorem slots_balanced_of_run {actions : List Action}
    (hrun : Run (Step maxParallel task) (State.init maxParallel) actions s) :
    ProfileTaskExecutionContext.Balanced maxParallel s.slots := by
  have hslots : SlotRun maxParallel task (State.init maxParallel) s := by
    apply hrun.invariant (I := SlotRun maxParallel task (State.init maxParallel))
    · intro state action next hbefore hstep
      exact hbefore.trans (.of_step hstep)
    · exact .of_eq rfl
  obtain ⟨operations, hoperations⟩ := hslots
  exact ProfileTaskExecutionContext.balanced_of_run hoperations

end Refinement

def usersTask : ProfileTask := { firstSpanOpName := "/users", maxSamplingCount := 5 }

/-- A request on `/users` opens its entry span and gets a slot; the next pass starts to profile it. -/
def profiledRequest : List Action :=
  [.app (.getContext 0), .app (.newEntrySpan 0 "/users" false), .app (.attempt 0), .app (.attempt 0),
    .app (.attempt 0), .app (.attempt 0), .app (.settle 0), .app (.startSpan 0)] ++
    [.profile false, .profile false, .profile true, .profile false]

/-- A snapshot is taken, then the request ends and its thread with it, and the next pass frees the slot. -/
def ownThread : List Action :=
  profiledRequest ++ List.replicate 9 (.profile false) ++
    [.app (.stopSpan 0), .app (.endThread 0)] ++ List.replicate 11 (.profile false)

theorem ownThread_timely : ∃ s,
    Run (Guarded (fun s action => s.timely usersTask action = true) (Step 1 usersTask))
      (State.init 1) ownThread s ∧
    s.loop = .sleeping ∧ s.archivedBefore = [0] ∧ s.snapshots.length = 1 ∧ s.NoLateSnapshot ∧
    s.Released := by
  have hresult : ∃ s,
      Run (Guarded (fun s action => s.timely usersTask action = true) (Step 1 usersTask))
        (State.init 1) ownThread s ∧
      s.loop = .sleeping ∧ s.archivedBefore = [0] ∧ s.snapshots.length = 1 := by
    apply Run.exists_of_guarded_foldlM
    decide +kernel
  obtain ⟨s, hreached, hloop, hbefore, hsnapshots⟩ := hresult
  obtain ⟨hlate, hreleased⟩ := timely_runs_profile_no_finished_request 1 usersTask hreached
  exact ⟨s, hreached, hloop, hbefore, hsnapshots, hlate, hreleased⟩

/-- The request ends and its thread goes back to its pool. -/
def pooledThread : List Action :=
  profiledRequest ++ [.app (.stopSpan 0)] ++ List.replicate 9 (.profile false)

theorem pooledThread_profiled_after_archive : ¬ ∀ (maxParallel : Nat) (task : ProfileTask)
    (actions : List Action) (s : State),
    Run (Step maxParallel task) (State.init maxParallel) actions s → s.NoLateSnapshot ∧ s.Released := by
  intro hall
  have hresult : ∃ s, Run (Step 1 usersTask) (State.init 1) pooledThread s ∧
      s.loop = .sleeping ∧ s.archivedBefore = [0] ∧
      s.slots.profilingSegmentSlots = [some ⟨0, 0⟩] ∧
      ∃ snapshot ∈ s.snapshots, snapshot.late = true := by
    apply Run.exists_of_foldlM
    decide +kernel
  obtain ⟨s, hreached, -, -, -, snapshot, hsnapshot, hlate⟩ := hresult
  have hnot := (hall 1 usersTask pooledThread s hreached).1 snapshot hsnapshot
  rw [hlate] at hnot
  cases hnot

end SkyWalking.ProfileThread
