import Mathlib.Tactic.Linarith
import Mathlib.Tactic.Positivity
import Mathlib.Tactic.Ring
import SkyWalking.Agent.Backoff

/-!
# How often reporters try and complain

The steps of a loop keep an invariant that ties its phase to the last of its calls, and loops do not touch each
other. The lines are those of a throttle with a key for each reporter.
-/

namespace SkyWalking

variable {reporter : BackoffReporter} {reporters : Nat → BackoffReporter}

theorem BackoffReporter.waitAfter_append (reporter : BackoffReporter) (before endings : List Ending) :
    reporter.waitAfter (before ++ endings) = endings.foldl reporter.nextWait (reporter.waitAfter before) := by
  rw [waitAfter, List.foldl_append, ← waitAfter]

theorem leastWait_pos (h : 0 ≤ reporter.initWait) : 0 < leastWait reporter.initWait := by
  unfold leastWait
  split
  · norm_num
  · next hne => exact lt_min (by norm_num) (lt_of_le_of_ne h (Ne.symm hne))

theorem leastWait_le_half (initWait : ℚ) : leastWait initWait ≤ 1 / 2 := by
  unfold leastWait
  split
  · exact le_refl _
  · exact min_le_left _ _

theorem leastWait_le {initWait : ℚ} (hne : initWait ≠ 0) : leastWait initWait ≤ initWait := by
  rw [leastWait, if_neg hne]
  exact min_le_right _ _

theorem waitAfter_cases (h : 0 ≤ reporter.initWait) (endings : List Ending) :
    reporter.waitAfter endings = 0 ∨ leastWait reporter.initWait ≤ reporter.waitAfter endings := by
  have hinit : reporter.initWait = 0 ∨ leastWait reporter.initWait ≤ reporter.initWait := by
    by_cases hzero : reporter.initWait = 0
    · exact .inl hzero
    · exact .inr (leastWait_le hzero)
  have hpos := leastWait_pos h
  have hhalf := leastWait_le_half reporter.initWait
  induction endings using List.reverseRecOn with
  | nil => exact hinit
  | append_singleton endings ending ih =>
      rw [BackoffReporter.waitAfter_append, List.foldl_cons, List.foldl_nil]
      cases ending with
      | notReady =>
          simp only [BackoffReporter.nextWait]
          split
          · exact .inl rfl
          · exact hinit
      | nothing => exact hinit
      | sent =>
          simp only [BackoffReporter.nextWait]
          split
          · exact .inl rfl
          · exact hinit
      | raised =>
          refine .inr (le_min (by linarith) ?_)
          split
          · linarith
          · next hne =>
            have hwait := ih.resolve_left fun hzero => hne (by rw [hzero, zero_mul])
            linarith

theorem waitFailed_ne_zero (wait : ℚ) (failures : Nat) : waitFailed wait failures ≠ 0 := by
  unfold waitFailed
  split
  · exact (lt_min (by norm_num) (by positivity)).ne'
  · next hne =>
    intro hzero
    obtain hleft | hright := min_choice (60 : ℚ) (2 ^ failures * wait)
    · rw [hleft] at hzero
      norm_num at hzero
    · rw [hright] at hzero
      exact mul_ne_zero (by positivity) hne hzero

/-- The next call in a row of calls that raise. -/
theorem nextWait_waitFailed (wait : ℚ) {failures : Nat} (hfailures : 0 < failures) :
    reporter.nextWait (waitFailed wait failures) .raised = waitFailed wait (failures + 1) := by
  have hcap : ∀ x : ℚ, min 60 (min 60 x * 2) = min 60 (x * 2) := by
    intro x
    obtain hle | hle := le_total x 60
    · rw [min_eq_right hle]
    · rw [min_eq_left hle, min_eq_left (by norm_num), min_eq_left (by linarith)]
  rw [BackoffReporter.nextWait, if_neg (mul_ne_zero (waitFailed_ne_zero wait failures) two_ne_zero), waitFailed, hcap,
    waitFailed]
  congr 1
  split
  · rw [Nat.add_sub_cancel, ← pow_succ, Nat.sub_add_cancel hfailures]
  · rw [pow_succ]
    ring

theorem nextWait_raised (wait : ℚ) : reporter.nextWait wait .raised = waitFailed wait 1 := by
  rw [BackoffReporter.nextWait, waitFailed]
  congr 1
  by_cases hzero : wait = 0
  · rw [if_pos hzero, if_pos (by rw [hzero, zero_mul]), Nat.sub_self, pow_zero]
  · rw [if_neg hzero, if_neg (mul_ne_zero hzero two_ne_zero), pow_one, mul_comm]

/-- The wait after a row of calls that raise. -/
theorem foldl_nextWait_raised (wait : ℚ) {endings : List Ending} (hne : endings ≠ [])
    (hraised : ∀ ending ∈ endings, ending = .raised) :
    endings.foldl reporter.nextWait wait = waitFailed wait endings.length := by
  induction endings using List.reverseRecOn with
  | nil => exact absurd rfl hne
  | append_singleton endings ending ih =>
      obtain rfl := hraised ending (List.mem_append_right _ List.mem_cons_self)
      rw [List.foldl_append, List.foldl_cons, List.foldl_nil, List.length_append, List.length_singleton]
      by_cases hempty : endings = []
      · subst hempty
        exact nextWait_raised wait
      · rw [ih hempty fun ending h => hraised ending (List.mem_append_left _ h)]
        exact nextWait_waitFailed wait (List.length_pos_of_ne_nil hempty)

theorem le_waitFailed {wait least : ℚ} (hhalf : least ≤ 1 / 2) (hwait : wait = 0 ∨ least ≤ wait)
    {failures : Nat} (hfailures : 0 < failures) :
    min 60 (2 ^ failures * least) ≤ waitFailed wait failures := by
  refine min_le_min (le_refl 60) ?_
  split
  · calc (2 : ℚ) ^ failures * least ≤ 2 ^ failures * (1 / 2) := by gcongr
      _ = 2 ^ (failures - 1) := by
        obtain ⟨n, rfl⟩ := Nat.exists_eq_succ_of_ne_zero hfailures.ne'
        rw [Nat.succ_eq_add_one, Nat.add_sub_cancel, pow_succ]
        ring
  · next hne =>
    have hle := hwait.resolve_left hne
    gcongr

namespace Paced

variable {calls before window : List ReporterCall} {call : ReporterCall}

theorem nil (reporter : BackoffReporter) : Paced reporter [] where
  waits before call h := by simp at h
  rested := List.isChain_nil
  lasts _ h := by cases h
  sleeps _ h := by cases h

theorem snoc (h : Paced reporter calls)
    (hwait : call.wait = reporter.waitAfter (calls.map (·.ending) ++ [call.ending]))
    (hrested : ∀ last ∈ calls.getLast?, last.ended + last.wait ≤ call.started)
    (hlasts : call.started ≤ call.ended)
    (hsleeps : call.ending = .notReady → call.started + 1 / 2 ≤ call.ended) :
    Paced reporter (calls ++ [call]) where
  waits before other hbefore := by
    obtain heq | hold := List.prefix_concat_iff.mp hbefore
    · obtain ⟨rfl, hcall⟩ := List.append_inj' heq rfl
      obtain rfl := List.head_eq_of_cons_eq hcall
      exact hwait
    · exact h.waits before other hold
  rested := by
    refine List.IsChain.append h.rested (List.isChain_singleton _) fun last hlast first hfirst => ?_
    obtain rfl := Option.some.inj hfirst
    exact hrested last hlast
  lasts other hother := by
    obtain hold | hnew := List.mem_append.mp hother
    · exact h.lasts other hold
    · obtain rfl := List.mem_singleton.mp hnew
      exact hlasts
  sleeps other hother := by
    obtain hold | hnew := List.mem_append.mp hother
    · exact h.sleeps other hold
    · obtain rfl := List.mem_singleton.mp hnew
      exact hsleeps

theorem wait_last (h : Paced reporter calls) (hlast : call ∈ calls.getLast?) :
    call.wait = reporter.waitAfter (calls.map (·.ending)) := by
  obtain ⟨before, rfl⟩ := List.getLast?_eq_some_iff.mp hlast
  rw [h.waits before call List.prefix_rfl, List.map_append, List.map_singleton]

/-- A call is not made before the wait of the one before it is over. -/
theorem rested_of_prefix (h : Paced reporter calls) {last : ReporterCall}
    (hbefore : before ++ [last, call] <+: calls) : last.ended + last.wait ≤ call.started := by
  obtain ⟨after, rfl⟩ := hbefore
  have hchain := h.rested
  rw [List.append_assoc] at hchain
  exact hchain.right_of_append.rel

end Paced

namespace Outage

variable {calls before window : List ReporterCall} {call : ReporterCall}

theorem of_snoc (h : Outage calls before (window ++ [call])) (hne : window ≠ []) :
    Outage calls before window where
  within := by
    have hwithin := h.within
    rw [← List.append_assoc] at hwithin
    exact (List.prefix_append _ _).trans hwithin
  ne_nil := hne
  raised other hother := h.raised other (List.mem_append_left _ hother)

theorem mem (h : Outage calls before window) (hlast : call ∈ window.getLast?) : call ∈ calls :=
  h.within.subset (List.mem_append_right _ (List.mem_of_getLast? hlast))

theorem rested (h : Outage calls before (window ++ [call])) (hpaced : Paced reporter calls)
    {last : ReporterCall} (hlast : last ∈ window.getLast?) : last.ended + last.wait ≤ call.started := by
  obtain ⟨front, rfl⟩ := List.getLast?_eq_some_iff.mp hlast
  have hwithin := h.within
  rw [List.append_assoc, ← List.append_assoc before] at hwithin
  exact hpaced.rested_of_prefix hwithin

theorem wait_last (h : Outage calls before window) (hpaced : Paced reporter calls)
    (hlast : call ∈ window.getLast?) :
    call.wait = waitFailed (reporter.waitAfter (before.map (·.ending))) window.length := by
  obtain ⟨front, rfl⟩ := List.getLast?_eq_some_iff.mp hlast
  have hwithin := h.within
  rw [← List.append_assoc] at hwithin
  have hwait := hpaced.waits (before ++ front) call hwithin
  have hmap : (before ++ front).map (·.ending) ++ [call.ending] =
      before.map (·.ending) ++ (front ++ [call]).map (·.ending) := by
    rw [List.map_append, List.map_append, List.append_assoc, List.map_singleton]
  rw [hwait, hmap, BackoffReporter.waitAfter_append, foldl_nextWait_raised, List.length_map]
  · simp
  · intro ending hending
    obtain ⟨other, hother, rfl⟩ := List.mem_map.mp hending
    exact h.raised other hother

/-- From one call to the next the window grows by a minute, once the wait is as long. -/
theorem spread (h : Outage calls before window) (hpaced : Paced reporter calls)
    (hinit : 0 ≤ reporter.initWait) {doublings : Nat}
    (hdoublings : 60 ≤ 2 ^ doublings * leastWait reporter.initWait) {first last : ReporterCall}
    (hfirst : first ∈ window.head?) (hlast : last ∈ window.getLast?) :
    first.started ≤ last.started ∧
      ((window.length : ℚ) - doublings) * 60 ≤ last.started - first.started := by
  have hleast := leastWait_pos hinit
  have hhalf := leastWait_le_half reporter.initWait
  induction window using List.reverseRecOn generalizing last with
  | nil => cases hfirst
  | append_singleton window call ih =>
      obtain rfl : call = last := by simpa using hlast
      by_cases hempty : window = []
      · subst hempty
        obtain rfl : call = first := by simpa using hfirst
        have hone : (1 : ℚ) ≤ doublings := by
          rw [Nat.one_le_cast, Nat.one_le_iff_ne_zero]
          rintro rfl
          linarith
        refine ⟨le_refl _, ?_⟩
        rw [sub_self, List.nil_append, List.length_singleton, Nat.cast_one]
        linarith
      · have hprevious := List.getLast?_eq_some_getLast hempty
        set previous := window.getLast hempty
        have hbefore := h.of_snoc hempty
        rw [List.head?_append_of_ne_nil window hempty] at hfirst
        obtain ⟨hle, hspread⟩ := ih hbefore hfirst hprevious
        have hrested := h.rested hpaced hprevious
        have hlasts := hpaced.lasts previous (hbefore.mem hprevious)
        have hcases := waitAfter_cases hinit (before.map (·.ending))
        have hwait := le_waitFailed hhalf hcases (List.length_pos_of_ne_nil hempty)
        rw [← hbefore.wait_last hpaced hprevious] at hwait
        have hpos : 0 < previous.wait := hwait.trans_lt' (lt_min (by norm_num) (by positivity))
        refine ⟨by linarith, ?_⟩
        rw [List.length_append, List.length_singleton, Nat.cast_add, Nat.cast_one]
        by_cases hmany : doublings ≤ window.length
        · have hminute : 60 ≤ 2 ^ window.length * leastWait reporter.initWait :=
            calc 60 ≤ 2 ^ doublings * leastWait reporter.initWait := hdoublings
              _ ≤ 2 ^ window.length * leastWait reporter.initWait := by
                gcongr
                exact one_le_two
          rw [min_eq_left hminute] at hwait
          linarith
        · have hfew : (window.length : ℚ) + 1 ≤ doublings := by exact_mod_cast Nat.lt_of_not_le hmany
          linarith

end Outage

theorem Outage.rare {calls before window : List ReporterCall} (h : Outage calls before window)
    (hpaced : Paced reporter calls) : Rare reporter before window where
  doubled _ hlast := h.wait_last hpaced hlast
  spread hinit _ hdoublings _ hfirst _ hlast := (h.spread hpaced hinit hdoublings hfirst hlast).2

/-- A call that starts now starts after the wait of the last one. -/
def Rested (calls : List ReporterCall) (now : ℚ) : Prop :=
  ∀ last ∈ calls.getLast?, last.ended + last.wait ≤ now

/-- What the phase of a loop says about its calls. -/
def LoopPhase.Fits (calls : List ReporterCall) (clock : ℚ) (finished : Bool) : LoopPhase → Prop
  | .checking => finished = true ∨ Rested calls clock
  | .asking started | .looking started | .sending started => started ≤ clock ∧ Rested calls started
  | .sleeping started wakeAt => started ≤ clock ∧ started + 1 / 2 ≤ wakeAt ∧ Rested calls started
  | .waiting deadline => Rested calls deadline
  | .ended | .finished => True

structure Loop.Sound (reporter : BackoffReporter) (calls : List ReporterCall) (clock : ℚ) (finished : Bool)
    (loop : Loop) : Prop where
  paced : Paced reporter calls
  past : ∀ call ∈ calls, call.ended ≤ clock
  wait_eq : loop.wait = reporter.waitAfter (calls.map (·.ending))
  fits : loop.phase.Fits calls clock finished

namespace Loop.Sound

variable {calls : List ReporterCall} {clock clock' : ℚ} {finished finished' : Bool} {loop : Loop}

theorem init (reporter : BackoffReporter) (clock : ℚ) (finished : Bool) :
    Loop.Sound reporter [] clock finished ⟨.checking, reporter.initWait⟩ where
  paced := Paced.nil reporter
  past _ h := by cases h
  wait_eq := rfl
  fits := .inr fun _ h => by cases h

theorem later (h : loop.Sound reporter calls clock finished) (hclock : clock ≤ clock')
    (hfinished : finished = true → finished' = true) : loop.Sound reporter calls clock' finished' where
  paced := h.paced
  past call hcall := (h.past call hcall).trans hclock
  wait_eq := h.wait_eq
  fits := by
    have hfits := h.fits
    cases hphase : loop.phase with
    | checking =>
        rw [hphase] at hfits
        obtain hdone | hrested := hfits
        · exact .inl (hfinished hdone)
        · exact .inr fun last hlast => (hrested last hlast).trans hclock
    | asking _ | looking _ | sending _ | sleeping _ _ =>
        rw [hphase] at hfits
        exact ⟨hfits.1.trans hclock, hfits.2⟩
    | waiting _ =>
        rw [hphase] at hfits
        exact hfits
    | ended | finished => exact trivial

theorem setPhase (h : loop.Sound reporter calls clock finished) {phase : LoopPhase}
    (hfits : phase.Fits calls clock finished) :
    Loop.Sound reporter calls clock finished { loop with phase := phase } where
  paced := h.paced
  past := h.past
  wait_eq := h.wait_eq
  fits := hfits

/-- The wait begins when the last call is over. -/
theorem rest (h : loop.Sound reporter calls clock finished) : Rested calls (clock + loop.wait) := by
  intro last hlast
  rw [h.paced.wait_last hlast, ← h.wait_eq]
  have hpast := h.past last (List.mem_of_getLast? hlast)
  gcongr

/-- Steps within a call, before and after it. -/
theorem fits_of_turn (h : loop.Sound reporter calls clock finished) {event : LoopEvent} {phase : LoopPhase}
    (hturn : Loop.turn reporter clock finished loop.phase event = some (phase, none)) :
    phase.Fits calls clock finished := by
  have hfits := h.fits
  have hafter : ∀ started, started ≤ clock → Rested calls started →
      (Loop.afterReady reporter started).Fits calls clock finished := by
    intro started hle hrested
    unfold Loop.afterReady
    split <;> exact ⟨hle, hrested⟩
  cases event with
  | advance =>
      cases hphase : loop.phase with
      | checking =>
          rw [hphase] at hfits hturn
          simp only [Loop.turn] at hturn
          split at hturn
          · obtain ⟨rfl, -⟩ := Prod.mk.inj (Option.some.inj hturn)
            exact trivial
          · next hrunning =>
            have hrested := hfits.resolve_left hrunning
            split at hturn
            · obtain ⟨rfl, -⟩ := Prod.mk.inj (Option.some.inj hturn)
              exact ⟨le_refl clock, hrested⟩
            · obtain ⟨rfl, -⟩ := Prod.mk.inj (Option.some.inj hturn)
              exact hafter clock (le_refl clock) hrested
      | sleeping started wakeAt =>
          rw [hphase] at hturn
          simp only [Loop.turn] at hturn
          split at hturn <;> simp at hturn
      | waiting deadline =>
          rw [hphase] at hfits hturn
          simp only [Loop.turn] at hturn
          split at hturn
          · next hwake =>
            obtain ⟨rfl, -⟩ := Prod.mk.inj (Option.some.inj hturn)
            obtain hdone | hdeadline := hwake
            · exact .inl hdone
            · exact .inr fun last hlast => (hfits last hlast).trans hdeadline
          · cases hturn
      | _ =>
          rw [hphase] at hturn
          cases hturn
  | ready answer =>
      cases hphase : loop.phase with
      | asking started =>
          rw [hphase] at hfits hturn
          simp only [Loop.turn] at hturn
          split at hturn
          · obtain ⟨rfl, -⟩ := Prod.mk.inj (Option.some.inj hturn)
            exact hafter started hfits.1 hfits.2
          · obtain ⟨rfl, -⟩ := Prod.mk.inj (Option.some.inj hturn)
            exact ⟨hfits.1, by linarith [hfits.1], hfits.2⟩
      | _ =>
          rw [hphase] at hturn
          cases hturn
  | empty answer =>
      cases hphase : loop.phase with
      | looking started =>
          rw [hphase] at hfits hturn
          simp only [Loop.turn] at hturn
          split at hturn
          · simp at hturn
          · obtain ⟨rfl, -⟩ := Prod.mk.inj (Option.some.inj hturn)
            exact hfits
      | _ =>
          rw [hphase] at hturn
          cases hturn
  | returns | raises =>
      cases hphase : loop.phase <;> rw [hphase] at hturn <;> simp [Loop.turn] at hturn

/-- The call that ends was made after the wait of the last one. -/
theorem call_of_turn (h : loop.Sound reporter calls clock finished) {event : LoopEvent} {phase : LoopPhase}
    {started : ℚ} {ending : Ending}
    (hturn : Loop.turn reporter clock finished loop.phase event = some (phase, some (started, ending))) :
    started ≤ clock ∧ Rested calls started ∧ (ending = .notReady → started + 1 / 2 ≤ clock) := by
  have hfits := h.fits
  cases hphase : loop.phase with
  | sleeping started' wakeAt =>
      rw [hphase] at hfits hturn
      cases event with
      | advance =>
          simp only [Loop.turn] at hturn
          split at hturn
          · next hwake =>
            simp only [Option.some.injEq, Prod.mk.injEq] at hturn
            obtain ⟨-, rfl, rfl⟩ := hturn
            exact ⟨hfits.1, hfits.2.2, fun _ => hfits.2.1.trans hwake⟩
          · cases hturn
      | _ => cases hturn
  | asking started' | looking started' | sending started' =>
      rw [hphase] at hfits hturn
      cases event with
      | advance => cases hturn
      | _ =>
          simp only [Loop.turn] at hturn
          try split at hturn
          all_goals
            simp only [Option.some.injEq, Prod.mk.injEq, reduceCtorEq, and_false] at hturn
          all_goals
            obtain ⟨-, rfl, rfl⟩ := hturn
            exact ⟨hfits.1, hfits.2, nofun⟩
  | _ =>
      rw [hphase] at hturn
      cases event <;> simp only [Loop.turn] at hturn <;> try split at hturn
      all_goals try split at hturn
      all_goals simp at hturn

end Loop.Sound

namespace Reporting

variable {s s' : Reporting} {label : ReportingLabel}

/-- The calls that raised, by the name of the reporter. -/
def raised (reporters : Nat → BackoffReporter) (s : Reporting) : List (String × ℚ) :=
  (s.calls.filter fun call => call.ending = .raised).map fun call =>
    ((reporters call.reporter).name, call.ended)

def printed (s : Reporting) : List (String × ℚ) :=
  s.log.lines.map fun line => (line.reporterName, line.now)

structure Sound (reporters : Nat → BackoffReporter) (s : Reporting) : Prop where
  loops : ∀ i, (s.loops i).Sound (reporters i) (s.callsOf i) s.clock s.finished
  throttled : Throttled reporterLogIntervalSec s.log.lastReporterLogAt (s.raised reporters) s.printed
  told : ∀ line ∈ s.log.lines, ∃ call ∈ s.calls, call.ending = .raised ∧
    (reporters call.reporter).name = line.reporterName ∧ call.ended = line.now ∧ call.wait = line.wait

theorem sound_init (reporters : Nat → BackoffReporter) (clock : ℚ) : (init reporters clock).Sound reporters where
  loops i := Loop.Sound.init (reporters i) clock false
  throttled := Throttled.init reporterLogIntervalSec
  told _ h := by cases h

theorem mem_callsOf {i : Nat} {call : ReporterCall} :
    call ∈ s.callsOf i ↔ call ∈ s.calls ∧ call.reporter = i := by
  simp [callsOf]

theorem callsOf_endCall (s : Reporting) (i j : Nat) (started : ℚ) (ending : Ending) :
    (s.endCall (reporters i) i started ending).callsOf j =
      s.callsOf j ++ if j = i then
        [⟨i, started, s.clock, ending, (reporters i).nextWait (s.loops i).wait ending⟩] else [] := by
  rw [callsOf, endCall, List.filter_append, callsOf]
  by_cases hj : j = i
  · simp [hj]
  · simp [hj, Ne.symm hj]

theorem raised_endCall (s : Reporting) (i : Nat) (started : ℚ) (ending : Ending) :
    (s.endCall (reporters i) i started ending).raised reporters =
      s.raised reporters ++ if ending = .raised then [((reporters i).name, s.clock)] else [] := by
  rw [raised, endCall, List.filter_append, List.map_append, raised]
  by_cases hending : ending = .raised <;> simp [hending]

namespace Sound

variable (h : s.Sound reporters)

include h

theorem raised_le {name : String} {t : ℚ} (hmem : (name, t) ∈ s.raised reporters) : t ≤ s.clock := by
  obtain ⟨call, hcall, heq⟩ := List.mem_map.mp hmem
  obtain ⟨-, rfl⟩ := Prod.mk.inj heq
  exact (h.loops call.reporter).past call (mem_callsOf.mpr ⟨(List.mem_filter.mp hcall).1, rfl⟩)

theorem setPhase {i : Nat} {phase : LoopPhase} (hfits : phase.Fits (s.callsOf i) s.clock s.finished) :
    (s.setPhase i phase).Sound reporters where
  loops j := by
    by_cases hj : j = i
    · subst hj
      simp only [Reporting.setPhase, Function.update_self]
      exact (h.loops j).setPhase hfits
    · simp only [Reporting.setPhase, Function.update_of_ne hj]
      exact h.loops j
  throttled := h.throttled
  told := h.told

theorem loops_endCall {i : Nat} {started : ℚ} {ending : Ending} (hle : started ≤ s.clock)
    (hrested : Rested (s.callsOf i) started) (hsleeps : ending = .notReady → started + 1 / 2 ≤ s.clock)
    (j : Nat) :
    ((s.endCall (reporters i) i started ending).loops j).Sound (reporters j)
      ((s.endCall (reporters i) i started ending).callsOf j) s.clock s.finished := by
  rw [callsOf_endCall]
  by_cases hj : j = i
  · subst hj
    have hwait : (reporters j).nextWait (s.loops j).wait ending =
        (reporters j).waitAfter ((s.callsOf j).map (·.ending) ++ [ending]) := by
      rw [BackoffReporter.waitAfter_append, (h.loops j).wait_eq, List.foldl_cons, List.foldl_nil]
    rw [if_pos rfl]
    simp only [endCall, Function.update_self]
    refine
      { paced := (h.loops j).paced.snoc hwait hrested hle hsleeps
        past := fun call hcall => ?_
        wait_eq := by rw [List.map_append, List.map_singleton]; exact hwait
        fits := trivial }
    obtain hold | hnew := List.mem_append.mp hcall
    · exact (h.loops j).past call hold
    · obtain rfl := List.mem_singleton.mp hnew
      exact le_refl _
  · rw [if_neg hj, List.append_nil]
    simp only [endCall, Function.update_of_ne hj]
    exact h.loops j

/-- An exception is printed when the throttle lets it through. -/
theorem log_endCall (i : Nat) (started : ℚ) (ending : Ending) :
    Throttled reporterLogIntervalSec (s.endCall (reporters i) i started ending).log.lastReporterLogAt
        ((s.endCall (reporters i) i started ending).raised reporters)
        (s.endCall (reporters i) i started ending).printed ∧
      ∀ line ∈ (s.endCall (reporters i) i started ending).log.lines,
        ∃ call ∈ (s.endCall (reporters i) i started ending).calls, call.ending = .raised ∧
          (reporters call.reporter).name = line.reporterName ∧ call.ended = line.now ∧
          call.wait = line.wait := by
  have htold : ∀ line ∈ s.log.lines, ∃ call ∈ (s.endCall (reporters i) i started ending).calls,
      call.ending = .raised ∧ (reporters call.reporter).name = line.reporterName ∧
        call.ended = line.now ∧ call.wait = line.wait := by
    intro line hline
    obtain ⟨call, hcall, hsame⟩ := h.told line hline
    exact ⟨call, List.mem_append_left _ hcall, hsame⟩
  rw [raised_endCall]
  by_cases hending : ending = .raised
  · subst hending
    simp only [endCall, if_pos, printed, ReporterLog.logReporterExceptionThrottled] at htold ⊢
    split
    · next hclosed =>
      exact ⟨h.throttled.hold hclosed fun t ht => h.raised_le ht, htold⟩
    · next hopen =>
      rw [List.map_append, List.map_singleton]
      refine ⟨h.throttled.pass (by norm_num [reporterLogIntervalSec]) (not_lt.mp hopen), fun line hline => ?_⟩
      obtain hold | hnew := List.mem_append.mp hline
      · exact htold line hold
      · obtain rfl := List.mem_singleton.mp hnew
        exact ⟨_, List.mem_append_right _ List.mem_cons_self, rfl, rfl, rfl, rfl⟩
  · rw [if_neg hending, List.append_nil]
    simp only [endCall, if_neg hending, printed] at htold ⊢
    exact ⟨h.throttled, htold⟩

theorem step (hstep : Step reporters s label s') : s'.Sound reporters := by
  cases label with
  | tick delta =>
      simp only [Step, next, Option.ite_none_right_eq_some] at hstep
      obtain ⟨hdelta, heq⟩ := hstep
      obtain rfl := Option.some.inj heq
      exact
        { loops := fun i => (h.loops i).later (le_add_of_nonneg_right hdelta) id
          throttled := h.throttled
          told := h.told }
  | finish =>
      obtain rfl := Option.some.inj hstep
      exact
        { loops := fun i => (h.loops i).later (le_refl _) fun _ => rfl
          throttled := h.throttled
          told := h.told }
  | rest i =>
      simp only [Step, next, Option.ite_none_right_eq_some] at hstep
      obtain ⟨-, heq⟩ := hstep
      obtain rfl := Option.some.inj heq
      exact h.setPhase (h.loops i).rest
  | turn i event =>
      simp only [Step, next] at hstep
      split at hstep
      · cases hstep
      · next phase hturn =>
        obtain rfl := Option.some.inj hstep
        exact h.setPhase ((h.loops i).fits_of_turn hturn)
      · next phase started ending hturn =>
        obtain rfl := Option.some.inj hstep
        obtain ⟨hle, hrested, hsleeps⟩ := (h.loops i).call_of_turn hturn
        obtain ⟨hthrottled, htold⟩ := h.log_endCall i started ending
        exact
          { loops := h.loops_endCall hle hrested hsleeps
            throttled := hthrottled
            told := htold }

theorem terse (name : String) {low high : ℚ} (hwindow : low ≤ high) :
    (((s.log.lines.filter fun line =>
        line.reporterName = name ∧ low ≤ line.now ∧ line.now ≤ high).length : ℚ) - 1) * 30 ≤ high - low := by
  have hlength : ((timesOf s.printed name).filter fun t => low ≤ t ∧ t ≤ high).length =
      (s.log.lines.filter fun line => line.reporterName = name ∧ low ≤ line.now ∧ line.now ≤ high).length := by
    simp only [timesOf, printed, List.filter_map, List.length_map, List.filter_filter, Function.comp_def]
    congr 1
    refine List.filter_congr fun line _ => ?_
    simp only [Bool.decide_and]
    exact Bool.and_comm _ _
  have hle := h.throttled.nsmul_le (by norm_num [reporterLogIntervalSec]) name hwindow
  rw [hlength, nsmul_eq_mul, reporterLogIntervalSec] at hle
  linarith

theorem reported {call : ReporterCall} (hcall : call ∈ s.calls) (hraised : call.ending = .raised)
    (hended : 30 ≤ call.ended) :
    ∃ line ∈ s.log.lines, line.reporterName = (reporters call.reporter).name ∧
      line.now ≤ call.ended ∧ call.ended < line.now + 30 := by
  have hseen : ((reporters call.reporter).name, call.ended) ∈ s.raised reporters :=
    List.mem_map_of_mem (List.mem_filter.mpr ⟨hcall, decide_eq_true hraised⟩)
  obtain ⟨earlier, hearlier, hle, hlt⟩ := h.throttled.covered _ _ hseen hended
  obtain ⟨line, hline, heq⟩ := List.mem_map.mp hearlier
  obtain ⟨hname, rfl⟩ := Prod.mk.inj heq
  exact ⟨line, hline, hname, hle, hlt⟩

theorem orderly : s.Orderly reporters where
  paced i := (h.loops i).paced
  rare i _ _ houtage := houtage.rare (h.loops i).paced
  terse name _ _ hwindow := h.terse name hwindow
  reported _ hcall hraised hended := h.reported hcall hraised hended
  told := h.told

end Sound

/-- **Reporters back off.** However the loops of the reporters interleave and whatever their calls come to, each
of them waits as its calls demand, makes ever fewer of them while they raise, and prints about that at most once
in half a minute and not more seldom than it has to. -/
theorem reporters_back_off (reporters : Nat → BackoffReporter) (clock : ℚ) {labels : List ReportingLabel}
    {s : Reporting} (hrun : Run (Step reporters) (init reporters clock) labels s) : s.Orderly reporters :=
  (hrun.invariant (I := fun s : Reporting => s.Sound reporters) (fun _ _ _ h hstep => h.step hstep)
    (sound_init reporters clock)).orderly

/-- The heartbeat and the segments of an agent. -/
def sampleReporters (i : Nat) : BackoffReporter := if i = 0 then .heartbeat 30 else .reportSegment

/-- Segments cannot be sent twice, and in between the channel is not ready for a heartbeat. -/
def outageLabels : List ReportingLabel :=
  [.turn 1 .advance, .turn 1 (.ready true), .turn 1 (.empty false), .turn 1 .raises, .rest 1,
    .turn 0 .advance, .turn 0 (.ready false), .tick (1 / 25),
    .turn 1 .advance, .turn 1 .advance, .turn 1 (.ready true), .turn 1 (.empty false), .turn 1 .raises,
    .tick (1 / 2), .turn 0 .advance]

theorem outage_reporters_back_off :
    ∃ s, Run (Step sampleReporters) (init sampleReporters 100) outageLabels s ∧
      s.calls.map (fun call => (call.reporter, call.ending, call.wait)) =
        [(1, .raised, 1 / 25), (1, .raised, 2 / 25), (0, .notReady, 0)] ∧
      s.log.lines = [⟨"segment", 1 / 25, 100⟩] ∧ s.Orderly sampleReporters := by
  have htest : (outageLabels.foldlM (next sampleReporters) (init sampleReporters 100)).any (fun s =>
      decide (s.calls.map (fun call => (call.reporter, call.ending, call.wait)) =
          [(1, .raised, 1 / 25), (1, .raised, 2 / 25), (0, .notReady, 0)] ∧
        s.log.lines = [⟨"segment", 1 / 25, 100⟩])) = true := by
    decide +kernel
  obtain ⟨s, hrun, hcalls, hlines⟩ := Run.exists_of_foldlM htest
  exact ⟨s, hrun, hcalls, hlines, reporters_back_off sampleReporters 100 hrun⟩

end Reporting

end SkyWalking
