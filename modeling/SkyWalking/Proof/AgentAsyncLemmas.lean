import Mathlib
import SkyWalking.Lib.Slot
import SkyWalking.Agent.Async

/-!
# When the asyncio agent leaves the application alone
-/

namespace SkyWalking

namespace AgentAsync

variable {config : Config} {s s' : State}

/-- The loop that is read next is open. -/
def State.LoopOpen (s : State) : Prop := ∃ loop, s.loop = some loop ∧ s.isClosed loop = false

/-- The calls with the test. -/
def Call.archives : Call → Bool
  | .archiveSegment | .archiveLog | .archiveMeter => true
  | _ => false

/-- A call on its way will find what it needs. -/
def CallOk (s : State) (call : Call × Progress) : Prop :=
  match call.2 with
  | .entered => True
  | .read loop => call.1.archives = true ∧ (s.isClosed loop = false → s.LoopOpen)
  | .tested => call.1.archives = true ∧ s.LoopOpen
  | .holding loop => call.1 ≠ .isSegmentQueueFull ∧ s.isClosed loop = false

structure Inv (s : State) : Prop where
  calls : ∀ call ∈ s.calls, CallOk s call
  raised : s.raised = []

theorem Inv.init : Inv .init where
  calls _ h := by cases h
  raised := rfl

theorem CallOk.mono {call : Call × Progress} (hok : CallOk s call)
    (hopen : ∀ loop, s.isClosed loop = false → s'.isClosed loop = false)
    (hclosed : ∀ loop, s'.isClosed loop = false → s.isClosed loop = false)
    (hloop : s.LoopOpen → s'.LoopOpen) : CallOk s' call := by
  obtain ⟨call, progress⟩ := call
  unfold CallOk at hok ⊢
  cases progress with
  | entered => trivial
  | read loop => exact ⟨hok.1, fun h => hloop (hok.2 (hclosed loop h))⟩
  | tested => exact ⟨hok.1, hloop hok.2⟩
  | holding loop => exact ⟨hok.1, hopen loop hok.2⟩

theorem Inv.congr (hinv : Inv s) (hloop : s'.loop = s.loop)
    (hsame : ∀ loop, s'.isClosed loop = s.isClosed loop) (hcalls : s'.calls = s.calls)
    (hraised : s'.raised = s.raised) : Inv s' := by
  refine ⟨?_, hraised.trans hinv.raised⟩
  intro call hcall
  rw [hcalls] at hcall
  refine (hinv.calls call hcall).mono ?_ ?_ ?_
  · exact fun loop h => (hsame loop).trans h
  · exact fun loop h => (hsame loop).symm.trans h
  · rintro ⟨loop, hread, hopen⟩
    exact ⟨loop, hloop.trans hread, (hsame loop).trans hopen⟩

theorem isClosed_set {phase old : Phase} {loop : Nat} (hold : s.loops[loop]? = some old)
    (hphase : phase ≠ .closed) (hnot : old ≠ .closed) (other : Nat) :
    (decide ((s.loops.set loop phase)[other]? = some .closed)) = s.isClosed other := by
  unfold State.isClosed
  by_cases heq : loop = other
  · subst heq
    have hlt := (List.getElem?_eq_some_iff.mp hold).1
    rw [List.getElem?_set_self hlt, hold]
    simp [hphase, hnot]
  · rw [List.getElem?_set_ne heq]

theorem Inv.boot {loop : Nat} (hinv : Inv s) (h : s.boot config loop = some s') : Inv s' := by
  unfold State.boot at h
  split at h
  · next hphase =>
    obtain rfl := Option.some.inj h
    have hsame : ∀ other, decide ((s.loops.set loop .loopSet)[other]? = some .closed) =
        s.isClosed other := isClosed_set hphase (by decide) (by decide)
    have hopen : s.isClosed loop = false := by simp [State.isClosed, hphase]
    refine ⟨fun call hcall => (hinv.calls call hcall).mono ?_ ?_ ?_, hinv.raised⟩
    · exact fun other h' => (hsame other).trans h'
    · exact fun other h' => (hsame other).symm.trans h'
    · exact fun _ => ⟨loop, rfl, (hsame loop).trans hopen⟩
  · next hphase =>
    obtain rfl := Option.some.inj h
    exact hinv.congr rfl (isClosed_set hphase (by decide) (by decide)) rfl rfl
  · next hphase =>
    obtain rfl := Option.some.inj h
    exact hinv.congr rfl (isClosed_set hphase (by decide) (by decide)) rfl rfl
  · next hphase =>
    obtain rfl := Option.some.inj h
    exact hinv.congr rfl (isClosed_set hphase (by decide) (by decide)) rfl rfl
  · next hphase =>
    obtain rfl := Option.some.inj h
    exact hinv.congr rfl (isClosed_set hphase (by decide) (by decide)) rfl rfl
  · cases h

theorem Inv.spawn (hinv : Inv s) (h : s.spawn = some s') : Inv s' := by
  unfold State.spawn at h
  split at h
  · obtain rfl := Option.some.inj h
    refine hinv.congr rfl ?_ rfl rfl
    intro loop
    unfold State.isClosed
    rw [List.getElem?_append]
    split
    · rfl
    · next hge =>
      rw [List.getElem?_eq_none (by omega : s.loops.length ≤ loop)]
      cases hindex : loop - s.loops.length with
      | zero => rfl
      | succ index => rfl
  · cases h

/-- A loop is closed in front of those calls only that still test it. -/
theorem Inv.close {loop : Nat} (hinv : Inv s) (hcalm : s.calm (.close loop) = true)
    (h : s.close loop = some s') : Inv s' := by
  have hcaught : ∀ call ∈ s.calls, call.2.caughtBy s loop = false := by
    intro call hcall
    simpa using List.all_eq_true.mp hcalm call hcall
  have hresult : ∃ phase, s.loops[loop]? = some phase ∧
      s' = { s with loops := s.loops.set loop .closed } := by
    unfold State.close at h
    split at h
    · cases h
    · cases h
    · next phase hphase => exact ⟨_, hphase, (Option.some.inj h).symm⟩
  obtain ⟨phase, hphase, rfl⟩ := hresult
  have hlt := (List.getElem?_eq_some_iff.mp hphase).1
  have hne : ∀ other, other ≠ loop →
      State.isClosed { s with loops := s.loops.set loop .closed } other = s.isClosed other := by
    intro other hother
    unfold State.isClosed
    rw [List.getElem?_set_ne hother.symm]
  have hself : State.isClosed { s with loops := s.loops.set loop .closed } loop = true := by
    unfold State.isClosed
    rw [List.getElem?_set_self hlt]
    rfl
  -- An attribute that does not lead to this loop leads to an open one, if it did before.
  have hkeeps : s.loop ≠ some loop → s.LoopOpen →
      State.LoopOpen { s with loops := s.loops.set loop .closed } := by
    rintro hother ⟨current, hread, hopen⟩
    refine ⟨current, hread, ?_⟩
    rw [hne current fun heq => hother (heq ▸ hread), hopen]
  refine ⟨?_, hinv.raised⟩
  rintro ⟨call, progress⟩ hcall
  have hok := hinv.calls _ hcall
  have hnot := hcaught _ hcall
  unfold CallOk at hok ⊢
  cases progress with
  | entered => trivial
  | read other =>
      refine ⟨hok.1, ?_⟩
      intro hopen
      by_cases heq : other = loop
      · rw [heq, hself] at hopen
        cases hopen
      · rw [hne other heq] at hopen
        simp only [Progress.caughtBy, ne_eq, heq, not_false_eq_true, hopen, true_and,
          decide_eq_false_iff_not] at hnot
        exact hkeeps hnot (hok.2 hopen)
  | tested =>
      simp only [Progress.caughtBy, decide_eq_false_iff_not] at hnot
      exact ⟨hok.1, hkeeps hnot hok.2⟩
  | holding other =>
      simp only [Progress.caughtBy, decide_eq_false_iff_not] at hnot
      exact ⟨hok.1, (hne other hnot).trans hok.2⟩

/-- The step neither raises nor gets the call into trouble. -/
def StepOk (s : State) (call : Call) (result : CallResult) : Prop :=
  result = .returned ∨ ∃ next, result = .goOn next ∧ CallOk s (call, next)

theorem stepOk_callSoonThreadsafe (call : Call) {loop : Nat} (hopen : s.isClosed loop = false) :
    StepOk s call (s.callSoonThreadsafe loop) := by
  left
  simp [State.callSoonThreadsafe, hopen]

theorem stepOk_readLoop {call : Call} (hcall : call ≠ .isSegmentQueueFull) (hloop : s.LoopOpen) :
    StepOk s call (s.readLoop .holding) := by
  obtain ⟨loop, hread, hopen⟩ := hloop
  right
  refine ⟨.holding loop, ?_, hcall, hopen⟩
  simp [State.readLoop, hread]

theorem stepOk_archive {call : Call} (harchives : call.archives = true) {progress : Progress}
    (hok : CallOk s (call, progress)) (hloop : progress = .entered → s.loop.isSome = true) :
    StepOk s call (s.archive progress) := by
  have hcall : call ≠ .isSegmentQueueFull := by
    rintro rfl
    cases harchives
  unfold CallOk at hok
  cases progress with
  | entered =>
      obtain ⟨loop, hread⟩ := Option.isSome_iff_exists.mp (hloop rfl)
      right
      refine ⟨.read loop, ?_, harchives, fun hopen => ⟨loop, hread, hopen⟩⟩
      simp [State.archive, State.readLoop, hread]
  | read loop =>
      cases hclosed : s.isClosed loop with
      | true =>
          left
          simp [State.archive, hclosed]
      | false =>
          right
          refine ⟨.tested, ?_, harchives, hok.2 hclosed⟩
          simp [State.archive, hclosed]
  | tested => exact stepOk_readLoop hcall hok.2
  | holding loop => exact stepOk_callSoonThreadsafe call hok.2

theorem stepOk_run {call : Call} {progress : Progress} (hok : CallOk s (call, progress))
    (htime : progress = .entered → call.inTime s = true) : StepOk s call (call.run s progress) := by
  cases call with
  | isSegmentQueueFull =>
      unfold CallOk at hok
      cases progress with
      | entered =>
          obtain ⟨queue, hqueue⟩ := Option.isSome_iff_exists.mp (htime rfl)
          left
          simp [Call.run, State.isSegmentQueueFull, hqueue]
      | read loop => cases hok.1
      | tested => cases hok.1
      | holding loop => exact absurd rfl hok.1
  | archiveSegment => exact stepOk_archive rfl hok htime
  | archiveLog => exact stepOk_archive rfl hok htime
  | archiveMeter => exact stepOk_archive rfl hok htime
  | addProfilingSnapshot =>
      unfold CallOk at hok
      cases progress with
      | entered =>
          obtain ⟨loop, hread, hopen⟩ := (Option.any_eq_true _ _).mp (htime rfl)
          exact stepOk_readLoop (by decide) ⟨loop, hread, by simpa using hopen⟩
      | read loop => cases hok.1
      | tested => cases hok.1
      | holding loop => exact stepOk_callSoonThreadsafe _ hok.2

theorem Inv.advance {index : Nat} (hinv : Inv s) (hcalm : s.calm (.advance index) = true)
    (h : s.advance index = some s') : Inv s' := by
  unfold State.advance at h
  cases hcall : s.calls[index]? with
  | none => simp [hcall] at h
  | some entry =>
      obtain ⟨call, progress⟩ := entry
      have hok := hinv.calls _ (List.mem_of_getElem? hcall)
      have htime : progress = .entered → call.inTime s = true := by
        rintro rfl
        simpa [State.calm, hcall] using hcalm
      simp only [hcall] at h
      obtain hreturned | ⟨next, hnext, hok'⟩ := stepOk_run hok htime
      · rw [hreturned] at h
        obtain rfl := Option.some.inj h
        exact ⟨fun other hother => hinv.calls other (List.mem_of_mem_eraseIdx hother), hinv.raised⟩
      · rw [hnext] at h
        obtain rfl := Option.some.inj h
        exact ⟨Slot.forall_mem_set hinv.calls hok', hinv.raised⟩

theorem Inv.step {action : Action} (hinv : Inv s) (hcalm : s.calm action = true)
    (hstep : Step config s action s') : Inv s' := by
  unfold Step at hstep
  cases action with
  | start =>
      rw [State.step, State.start] at hstep
      split at hstep
      · cases hstep
      · obtain rfl := Option.some.inj hstep
        exact hinv.congr rfl (fun _ => rfl) rfl rfl
  | spawn => exact hinv.spawn hstep
  | boot loop => exact hinv.boot hstep
  | close loop => exact hinv.close hcalm hstep
  | stop =>
      rw [State.step, State.stop] at hstep
      split at hstep
      · obtain rfl := Option.some.inj hstep
        exact hinv.congr rfl (fun _ => rfl) rfl rfl
      · cases hstep
  | begin call =>
      rw [State.step] at hstep
      split at hstep
      · obtain rfl := Option.some.inj hstep
        refine ⟨?_, hinv.raised⟩
        intro other hother
        obtain hold | hnew := List.mem_append.mp hother
        · exact hinv.calls other hold
        · obtain rfl := List.mem_singleton.mp hnew
          trivial
      · cases hstep
  | advance index => exact hinv.advance hcalm hstep

/-- **The application is left alone.** No call raises in a run in which no call reads an attribute
before it is assigned, no profiling snapshot is added to a closed loop, and no loop is closed behind the
test of a call. -/
theorem calm_calls_return (config : Config) {actions : List Action} {s : State}
    (hrun : Run (Guarded (fun s action => s.calm action = true) (Step config)) .init actions s) :
    s.raised = [] := by
  have hinv : Inv s :=
    hrun.invariant (fun _ _ _ hinv hstep => hinv.step hstep.1 hstep.2) Inv.init
  exact hinv.raised

def sampleConfig : Config :=
  { meterReporterActive := true
    logReporterActive := true
    profileActive := true }

/-- A start, a request that is traced and logged while the loop runs, and one after the end. -/
def orderly : List Action :=
  [.start, .spawn, .boot 0, .boot 0, .boot 0, .boot 0, .boot 0,
    .begin .isSegmentQueueFull, .advance 0,
    .begin .archiveSegment, .begin .archiveLog, .advance 0, .advance 1, .advance 0, .advance 1,
    .advance 1, .advance 0, .advance 1, .advance 0,
    .begin .archiveSegment, .advance 0,
    .close 0, .advance 0, .stop]

theorem orderly_calls_return :
    ∃ s, Run (Guarded (fun s action => s.calm action = true) (Step sampleConfig)) .init orderly s ∧
      s.isClosed 0 = true ∧ s.calls = [] ∧ s.raised = [] := by
  have hresult : ∃ s,
      Run (Guarded (fun s action => s.calm action = true) (Step sampleConfig)) .init orderly s ∧
      s.isClosed 0 = true ∧ s.calls = [] := by
    apply Run.exists_of_guarded_foldlM
    decide
  obtain ⟨s, hrun, hclosed, hcalls⟩ := hresult
  exact ⟨s, hrun, hclosed, hcalls, calm_calls_return sampleConfig hrun⟩

/-- A segment and a look at the queue while the plugins are being installed. -/
def early : List Action :=
  [.start, .begin .archiveSegment, .begin .isSegmentQueueFull, .advance 1, .advance 0]

/-- The loop is closed between the test of a call and its use, and before a snapshot is added. -/
def late : List Action :=
  [.start, .spawn, .boot 0, .boot 0, .boot 0, .boot 0, .boot 0,
    .begin .archiveLog, .advance 0, .advance 0, .close 0, .advance 0, .advance 0,
    .begin .addProfilingSnapshot, .advance 0, .advance 0]

/-- Calls that come too early or too late raise. -/
theorem application_calls_raise :
    (∃ s, Run (Step sampleConfig) .init early s ∧
      s.raised = [(.isSegmentQueueFull, .attributeError), (.archiveSegment, .attributeError)]) ∧
    ∃ s, Run (Step sampleConfig) .init late s ∧
      s.raised = [(.archiveLog, .runtimeError), (.addProfilingSnapshot, .runtimeError)] := by
  constructor
  · apply Run.exists_of_foldlM
    decide
  · apply Run.exists_of_foldlM
    decide

end AgentAsync

end SkyWalking
