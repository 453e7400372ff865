import Mathlib
import SkyWalking.Report.Heartbeat

/-!
# Properties are registered again after a failover

As long as the flag is not cleared behind the back of a heartbeat that is about to set it, it is down
whenever the properties are owed, and the next heartbeat sends them.
-/

namespace SkyWalking

namespace Heartbeat

variable {variant : Variant} {factor : Int} {s s' : State}

inductive CallbackEffect (s : State) (clears : Bool) : State → Prop where
  | kept (state : Option Connectivity) (counter : Int) (callback : Callback) :
      CallbackEffect s clears
        { s with
          state := state
          sentPropertiesCounter := counter
          callback := callback }
  | cleared (state : Option Connectivity) (counter : Int) (callback : Callback) : clears = true →
      CallbackEffect s clears
        { s.clear with
          state := state
          sentPropertiesCounter := counter
          callback := callback }

theorem deliver_effect {state : Connectivity} (h : s.deliver variant state = some s') :
    CallbackEffect s (s.clears variant (.deliver state)) s' := by
  unfold State.deliver at h
  cases variant with
  | sync =>
      simp only at h
      split at h
      · obtain rfl := Option.some.inj h
        exact .kept s.state s.sentPropertiesCounter _
      · cases h
  | aio =>
      simp only at h
      split at h
      · obtain rfl := Option.some.inj h
        unfold State.onConnectivity
        split
        · next hleaves => exact .cleared (some state) 0 s.callback (by simp [State.clears, hleaves])
        · exact .kept (some state) s.sentPropertiesCounter s.callback
      · cases h

theorem stepCallback_effect (variant : Variant) (h : s.stepCallback = some s') :
    CallbackEffect s (s.clears variant .callback) s' := by
  unfold State.stepCallback at h
  cases hcallback : s.callback with
  | idle => simp [hcallback] at h
  | entered prev state =>
      simp only [hcallback] at h
      split at h
      · next hleaves =>
        obtain rfl := Option.some.inj h
        exact .cleared s.state s.sentPropertiesCounter _ (by simp [State.clears, hcallback, hleaves])
      · obtain rfl := Option.some.inj h
        exact .kept _ s.sentPropertiesCounter _
  | cleared state =>
      simp only [hcallback] at h
      obtain rfl := Option.some.inj h
      exact .kept s.state 0 _
  | restarted state =>
      simp only [hcallback] at h
      obtain rfl := Option.some.inj h
      exact .kept _ s.sentPropertiesCounter _

inductive BeatEffect (factor : Int) (s : State) : State → Prop where
  | waited : BeatEffect factor s s
  | started : s.beat = .idle →
      BeatEffect factor s
        { s with
          beat := .ready
          owed := s.isOwed
          sent := false }
  | skipped : s.beat = .ready → s.propertiesSent = true →
      BeatEffect factor s { s with beat := .beating }
  | issued : s.beat = .ready → BeatEffect factor s (s.issue .registering)
  | registered (issued : Nat) : s.beat = .registering issued →
      BeatEffect factor s
        { s with
          lastIssue := issued
          beat := .registered }
  | unregistered (issued : Nat) : s.beat = .registering issued →
      BeatEffect factor s { s with beat := .beating }
  | assigned : s.beat = .registered →
      BeatEffect factor s
        { s with
          propertiesSent := true
          beat := .beating }
  | read : s.beat = .beating →
      BeatEffect factor s { s with beat := .counting s.sentPropertiesCounter }
  | counted (read : Int) : s.beat = .counting read →
      BeatEffect factor s
        { s with
          sentPropertiesCounter := read + 1
          beat := .counted }
  | refreshing : s.beat = .counted → BeatEffect factor s (s.issue .refreshing)
  | pinging : s.beat = .counted → factor.natAbs ≠ 1 → BeatEffect factor s { s with beat := .pinging }
  | undivided : s.beat = .counted → factor = 0 → BeatEffect factor s s.finish
  | refreshed (issued : Nat) : s.beat = .refreshing issued →
      BeatEffect factor s
        { s with
          lastIssue := issued
          beat := .pinging }
  | unrefreshed (issued : Nat) : s.beat = .refreshing issued →
      BeatEffect factor s { s with beat := .pinging }
  | raised (issued : Nat) : s.beat = .registering issued ∨ s.beat = .refreshing issued →
      BeatEffect factor s s.finish
  | pinged : s.beat = .pinging → BeatEffect factor s s.finish

theorem start_effect (factor : Int) (h : s.start = some s') : BeatEffect factor s s' := by
  unfold State.start at h
  split at h
  · next hbeat =>
    split at h
    · obtain rfl := Option.some.inj h
      exact .started hbeat
    · obtain rfl := Option.some.inj h
      exact .waited
  · cases h

theorem fmod_eq_zero_of_natAbs_eq_one (hone : factor.natAbs = 1) (counter : Int) :
    counter.fmod factor = 0 := by
  apply Int.fmod_eq_zero_of_dvd
  exact Int.isUnit_iff_natAbs_eq.mpr hone |>.dvd

theorem advance_effect (h : s.advance factor = some s') : BeatEffect factor s s' := by
  unfold State.advance at h
  split at h
  · next hbeat =>
    split at h
    · next hset =>
      obtain rfl := Option.some.inj h
      exact .skipped hbeat hset
    · obtain rfl := Option.some.inj h
      exact .issued hbeat
  · next hbeat =>
    obtain rfl := Option.some.inj h
    exact .assigned hbeat
  · next hbeat =>
    obtain rfl := Option.some.inj h
    exact .read hbeat
  · next read hbeat =>
    obtain rfl := Option.some.inj h
    exact .counted read hbeat
  · next hbeat =>
    split at h
    · next hzero =>
      obtain rfl := Option.some.inj h
      exact .undivided hbeat hzero
    · split at h
      · obtain rfl := Option.some.inj h
        exact .refreshing hbeat
      · next hmod =>
        obtain rfl := Option.some.inj h
        exact .pinging hbeat fun hone => hmod (fmod_eq_zero_of_natAbs_eq_one hone _)
  · cases h

theorem answer_effect (factor : Int) {outcome : Outcome} (h : s.answer outcome = some s') :
    BeatEffect factor s s' := by
  unfold State.answer at h
  split at h
  · next issued hbeat =>
    obtain rfl := Option.some.inj h
    exact .registered issued hbeat
  · next issued hbeat =>
    obtain rfl := Option.some.inj h
    exact .unregistered issued hbeat
  · next issued hbeat =>
    obtain rfl := Option.some.inj h
    exact .raised issued (Or.inl hbeat)
  · next issued hbeat =>
    obtain rfl := Option.some.inj h
    exact .refreshed issued hbeat
  · next issued hbeat =>
    obtain rfl := Option.some.inj h
    exact .unrefreshed issued hbeat
  · next issued hbeat =>
    obtain rfl := Option.some.inj h
    exact .raised issued (Or.inr hbeat)
  · next hbeat =>
    obtain rfl := Option.some.inj h
    exact .pinged hbeat
  · cases h

/-- What the position of the heartbeat says about it. -/
def State.BeatOk (s : State) : Prop :=
  match s.beat with
  | .idle => True
  | .ready => s.owed = true → s.lastIssue < s.delivered
  | .registering issued => issued = s.delivered ∧ s.sent = true
  | .registered => s.lastIssue = s.delivered ∧ s.sent = true
  | .refreshing issued => s.lastIssue ≤ issued ∧ issued ≤ s.delivered ∧ s.sent = true
  | _ => s.owed = true → s.sent = true

/-- The flag is down while the properties are owed, and every heartbeat that is over has sent what was
owed. -/
structure Inv (s : State) : Prop where
  lastIssue_le : s.lastIssue ≤ s.delivered
  flag : s.lastIssue < s.delivered → s.propertiesSent = false
  beatOk : s.BeatOk
  beats : ∀ beat ∈ s.beats, beat.owed = true → beat.sent = true

theorem Inv.init : Inv .init where
  lastIssue_le := Nat.le_refl 0
  flag _ := rfl
  beatOk := trivial
  beats beat hbeat := by cases hbeat

theorem Inv.finish (hinv : Inv s) (hsent : s.owed = true → s.sent = true) : Inv s.finish where
  lastIssue_le := hinv.lastIssue_le
  flag := hinv.flag
  beatOk := trivial
  beats := by
    intro beat hbeat
    obtain hold | hnew := List.mem_append.mp hbeat
    · exact hinv.beats beat hold
    · obtain rfl := List.mem_singleton.mp hnew
      exact hsent

theorem Inv.beatEffect (hinv : Inv s) (heffect : BeatEffect factor s s') : Inv s' := by
  have hok := hinv.beatOk
  unfold State.BeatOk at hok
  cases heffect with
  | waited => exact hinv
  | started =>
      refine ⟨hinv.lastIssue_le, hinv.flag, ?_, hinv.beats⟩
      exact fun howed => of_decide_eq_true howed
  | skipped hbeat hset =>
      -- The flag is up, so nothing is owed.
      rw [hbeat] at hok
      refine ⟨hinv.lastIssue_le, hinv.flag, ?_, hinv.beats⟩
      intro howed
      rw [hinv.flag (hok howed)] at hset
      cases hset
  | issued => exact ⟨hinv.lastIssue_le, hinv.flag, ⟨rfl, rfl⟩, hinv.beats⟩
  | registered issued hbeat =>
      rw [hbeat] at hok
      exact ⟨hok.1.le, fun hlt => absurd hlt (Nat.not_lt.mpr hok.1.ge), hok, hinv.beats⟩
  | unregistered issued hbeat =>
      rw [hbeat] at hok
      exact ⟨hinv.lastIssue_le, hinv.flag, fun _ => hok.2, hinv.beats⟩
  | assigned hbeat =>
      rw [hbeat] at hok
      refine ⟨hinv.lastIssue_le, ?_, fun _ => hok.2, hinv.beats⟩
      intro hlt
      exact absurd hlt (Nat.not_lt.mpr hok.1.ge)
  | read hbeat =>
      rw [hbeat] at hok
      exact ⟨hinv.lastIssue_le, hinv.flag, hok, hinv.beats⟩
  | counted read hbeat =>
      rw [hbeat] at hok
      exact ⟨hinv.lastIssue_le, hinv.flag, hok, hinv.beats⟩
  | refreshing =>
      exact ⟨hinv.lastIssue_le, hinv.flag, ⟨hinv.lastIssue_le, Nat.le_refl _, rfl⟩, hinv.beats⟩
  | pinging hbeat =>
      rw [hbeat] at hok
      exact ⟨hinv.lastIssue_le, hinv.flag, hok, hinv.beats⟩
  | undivided hbeat =>
      rw [hbeat] at hok
      exact hinv.finish hok
  | refreshed issued hbeat =>
      rw [hbeat] at hok
      obtain ⟨hle, hissued, hsent⟩ := hok
      exact ⟨hissued, fun hlt => hinv.flag (hle.trans_lt hlt), fun _ => hsent, hinv.beats⟩
  | unrefreshed issued hbeat =>
      rw [hbeat] at hok
      exact ⟨hinv.lastIssue_le, hinv.flag, fun _ => hok.2.2, hinv.beats⟩
  | raised issued hbeat =>
      apply hinv.finish
      intro _
      obtain hbeat | hbeat := hbeat
      · rw [hbeat] at hok
        exact hok.2
      · rw [hbeat] at hok
        exact hok.2.2
  | pinged hbeat =>
      rw [hbeat] at hok
      exact hinv.finish hok

/-- A transition is delivered while no heartbeat is about to set the flag. -/
theorem Inv.clear (hinv : Inv s) (hnot : s.beat.registers = false) : Inv s.clear where
  lastIssue_le := Nat.le_succ_of_le hinv.lastIssue_le
  flag _ := rfl
  beatOk := by
    have hok := hinv.beatOk
    unfold State.BeatOk at hok ⊢
    cases hbeat : s.beat with
    | registering issued => simp [hbeat, Beat.registers] at hnot
    | registered => simp [hbeat, Beat.registers] at hnot
    | ready =>
        simp only [State.clear, hbeat] at hok ⊢
        exact fun howed => Nat.lt_succ_of_lt (hok howed)
    | refreshing issued =>
        simp only [State.clear, hbeat] at hok ⊢
        exact ⟨hok.1, Nat.le_succ_of_le hok.2.1, hok.2.2⟩
    | idle => simp only [State.clear, hbeat]
    | beating => simpa only [State.clear, hbeat] using hok
    | counting read => simpa only [State.clear, hbeat] using hok
    | counted => simpa only [State.clear, hbeat] using hok
    | pinging => simpa only [State.clear, hbeat] using hok
  beats := hinv.beats

/-- The state of the channel, the counter and the position of the callback are of no concern, and it
may clear the flag. -/
theorem Inv.callbackEffect {clears : Bool} (hinv : Inv s)
    (hquiet : clears = true → s.beat.registers = false) (heffect : CallbackEffect s clears s') :
    Inv s' := by
  cases heffect with
  | kept state counter callback =>
      exact ⟨hinv.lastIssue_le, hinv.flag, hinv.beatOk, hinv.beats⟩
  | cleared state counter callback hclears =>
      have hinv' := hinv.clear (hquiet hclears)
      exact ⟨hinv'.lastIssue_le, hinv'.flag, hinv'.beatOk, hinv'.beats⟩

theorem Inv.step (hinv : Inv s) {label : Label}
    (hquiet : s.clears variant label = true → s.beat.registers = false)
    (hstep : Step variant factor s label s') : Inv s' := by
  cases label with
  | start => exact hinv.beatEffect (start_effect factor hstep)
  | advance => exact hinv.beatEffect (advance_effect hstep)
  | answer outcome => exact hinv.beatEffect (answer_effect factor hstep)
  | deliver state => exact hinv.callbackEffect hquiet (deliver_effect hstep)
  | callback => exact hinv.callbackEffect hquiet (stepCallback_effect variant hstep)

/-- Past the test of the counter the properties are sent. -/
def State.SentOk (s : State) : Prop :=
  match s.beat with
  | .registering _ | .registered | .refreshing _ | .pinging => s.sent = true
  | _ => True

/-- Every heartbeat that is over has sent the properties. -/
structure AllSent (s : State) : Prop where
  sentOk : s.SentOk
  beats : ∀ beat ∈ s.beats, beat.sent = true

theorem AllSent.init : AllSent .init := ⟨trivial, fun _ h => by cases h⟩

theorem AllSent.finish (hinv : AllSent s) (hsent : s.sent = true) : AllSent s.finish where
  sentOk := trivial
  beats := by
    intro beat hbeat
    obtain hold | hnew := List.mem_append.mp hbeat
    · exact hinv.beats beat hold
    · obtain rfl := List.mem_singleton.mp hnew
      exact hsent

theorem AllSent.callbackEffect {clears : Bool} (hinv : AllSent s)
    (heffect : CallbackEffect s clears s') : AllSent s' := by
  cases heffect with
  | kept state counter callback => exact ⟨hinv.sentOk, hinv.beats⟩
  | cleared state counter callback hclears => exact ⟨hinv.sentOk, hinv.beats⟩

theorem AllSent.beatEffect (hone : factor.natAbs = 1) (hinv : AllSent s)
    (heffect : BeatEffect factor s s') : AllSent s' := by
  have hok := hinv.sentOk
  unfold State.SentOk at hok
  cases heffect with
  | waited => exact hinv
  | started => exact ⟨trivial, hinv.beats⟩
  | skipped => exact ⟨trivial, hinv.beats⟩
  | issued => exact ⟨rfl, hinv.beats⟩
  | registered issued hbeat =>
      rw [hbeat] at hok
      exact ⟨hok, hinv.beats⟩
  | unregistered => exact ⟨trivial, hinv.beats⟩
  | assigned => exact ⟨trivial, hinv.beats⟩
  | read => exact ⟨trivial, hinv.beats⟩
  | counted => exact ⟨trivial, hinv.beats⟩
  | refreshing => exact ⟨rfl, hinv.beats⟩
  | pinging _ hnot => exact absurd hone hnot
  | undivided _ hzero =>
      rw [hzero] at hone
      cases hone
  | refreshed issued hbeat =>
      rw [hbeat] at hok
      exact ⟨hok, hinv.beats⟩
  | unrefreshed issued hbeat =>
      rw [hbeat] at hok
      exact ⟨hok, hinv.beats⟩
  | raised issued hbeat =>
      apply hinv.finish
      obtain hbeat | hbeat := hbeat
      · rw [hbeat] at hok
        exact hok
      · rw [hbeat] at hok
        exact hok
  | pinged hbeat =>
      rw [hbeat] at hok
      exact hinv.finish hok

theorem AllSent.step (hone : factor.natAbs = 1) (hinv : AllSent s) {label : Label}
    (hstep : Step variant factor s label s') : AllSent s' := by
  cases label with
  | start => exact hinv.beatEffect hone (start_effect factor hstep)
  | advance => exact hinv.beatEffect hone (advance_effect hstep)
  | answer outcome => exact hinv.beatEffect hone (answer_effect factor hstep)
  | deliver state => exact hinv.callbackEffect (deliver_effect hstep)
  | callback => exact hinv.callbackEffect (stepCallback_effect variant hstep)

/-- **Properties are registered again after a failover.** In every run in which the flag is not cleared
between the issue of the `send_instance_props` of a heartbeat and its assignment to the flag, and in
every run with a period factor of one, each heartbeat that starts on a READY channel with the properties
owed sends them. -/
theorem owed_properties_sent (variant : Variant) (factor : Int) {labels : List Label} {s : State}
    (hrun : Run (Guarded (fun s label => s.undisturbed variant factor label = true)
      (Step variant factor)) .init labels s) :
    ∀ beat ∈ s.beats, beat.owed = true → beat.sent = true := by
  by_cases hone : factor.natAbs = 1
  · have hall : AllSent s :=
      hrun.invariant (fun _ _ _ hinv hstep => hinv.step hone hstep.2) AllSent.init
    intro beat hbeat _
    exact hall.beats beat hbeat
  · have hinv : Inv s := by
      refine hrun.invariant ?_ Inv.init
      rintro state label next hinv ⟨hguard, hstep⟩
      refine hinv.step ?_ hstep
      intro hclears
      have hnot := of_decide_eq_true hguard
      simpa [hone, hclears] using hnot
    exact hinv.beats

/-- A connection, its loss and its return, each delivered between two heartbeats. -/
def failover : List Label :=
  [.deliver .READY, .callback,
    .start, .advance, .answer .ok, .advance, .advance, .advance, .advance, .answer .ok,
    .deliver .TRANSIENT_FAILURE, .callback, .callback, .callback,
    .deliver .READY, .callback,
    .start, .advance, .answer .ok, .advance, .advance, .advance, .advance, .answer .ok]

theorem failover_registers :
    ∃ s, Run (Guarded (fun s label => s.undisturbed .sync 10 label = true) (Step .sync 10))
      .init failover s ∧ s.beats.map Record.owed = [false, true] ∧
      ∀ beat ∈ s.beats, beat.owed = true → beat.sent = true := by
  have hresult : ∃ s,
      Run (Guarded (fun s label => s.undisturbed .sync 10 label = true) (Step .sync 10)) .init
        failover s ∧
      s.beats.map Record.owed = [false, true] := by
    apply Run.exists_of_guarded_foldlM
    decide
  obtain ⟨s, hrun, howed⟩ := hresult
  exact ⟨s, hrun, howed, owed_properties_sent .sync 10 hrun⟩

/-- The connection is lost while the first heartbeat waits for the answer to its
`send_instance_props`. -/
def lostWhileRegistering : List Label :=
  [.deliver .READY, .callback,
    .start, .advance,
    .deliver .TRANSIENT_FAILURE, .callback, .callback, .callback,
    .answer .ok, .advance, .advance, .advance, .advance, .answer .ok,
    .deliver .READY, .callback,
    .start, .advance, .advance, .advance, .advance, .answer .ok]

/-- The same in the asyncio protocol. -/
def lostWhileRegisteringAsync : List Label := lostWhileRegistering.filter (· ≠ .callback)

/-- The heartbeat raises the flag again that the callback has cleared, and the next one does not send
the properties that it owes. -/
theorem lost_registration :
    (∃ s, Run (Step .sync 10) .init lostWhileRegistering s ∧ ⟨true, false⟩ ∈ s.beats) ∧
      ∃ s, Run (Step .aio 10) .init lostWhileRegisteringAsync s ∧ ⟨true, false⟩ ∈ s.beats := by
  constructor
  · apply Run.exists_of_foldlM
    decide
  · apply Run.exists_of_foldlM
    decide

end Heartbeat

end SkyWalking
