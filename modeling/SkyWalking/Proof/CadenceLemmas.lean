import Mathlib
import SkyWalking.Lib.Window
import SkyWalking.Proof.HeartbeatLemmas

/-!
# The cadence of the properties

While the flag is up, the counter modulo the period factor is at least the number of heartbeats since
the last attempt. A callback that resets the counter takes the flag down first, so that the next
heartbeat makes an attempt.
-/

namespace SkyWalking

namespace Heartbeat

variable {variant : Variant} {k gap : Nat} {s s' : State}

/-- Counting on, the remainder grows by one or falls to zero. -/
theorem emod_add_one (counter : Int) (hk : 0 < k) (hne : (counter + 1) % (k : Int) ≠ 0) :
    (counter + 1) % (k : Int) = counter % (k : Int) + 1 := by
  have hpos : (0 : Int) < k := by exact_mod_cast hk
  have hlow := Int.emod_nonneg counter hpos.ne'
  have hhigh := Int.emod_lt_of_pos counter hpos
  have hsplit : (counter + 1) % (k : Int) = (counter % (k : Int) + 1) % (k : Int) :=
    (Int.emod_add_emod counter k 1).symm
  rw [hsplit] at hne ⊢
  by_cases hlast : counter % (k : Int) + 1 = k
  · rw [hlast, Int.emod_self] at hne
    exact absurd rfl hne
  · exact Int.emod_eq_of_lt (by omega) (by omega)

/-- What the position of the heartbeat says about an attempt of its own and about the counter, if the
last `gap` heartbeats have made none. -/
def State.CounterOk (k gap : Nat) (s : State) : Prop :=
  match s.beat with
  | .idle | .ready => s.propertiesSent = true → (gap : Int) ≤ s.sentPropertiesCounter % k
  | .registering _ | .registered | .refreshing _ => s.sent = true
  | .beating => s.sent = true ∨ (gap : Int) ≤ s.sentPropertiesCounter % k
  | .counting read => s.sent = true ∨ (gap : Int) ≤ read % k
  | .counted => s.sent = true ∨ s.sentPropertiesCounter % (k : Int) = 0 ∨
      (gap : Int) + 1 ≤ s.sentPropertiesCounter % k
  | .pinging => s.sent = true ∨ (gap : Int) + 1 ≤ s.sentPropertiesCounter % k

/-- The callback is in the middle of a reset. -/
def Callback.resets : Callback → Bool
  | .cleared _ | .restarted _ => true
  | _ => false

structure CadenceInv (k : Nat) (s : State) : Prop where
  recurs : Window.Recurs k (fun beat : Record => beat.sent = true) s.beats
  counter : ∃ gap, gap < k ∧ Window.GapAtMost gap (fun beat : Record => beat.sent = true) s.beats ∧
    s.CounterOk k gap
  callback : s.callback.resets = true → s.propertiesSent = false
  alone : s.callback ≠ .idle → s.beat = .idle

theorem CadenceInv.init (hk : 0 < k) : CadenceInv k .init where
  recurs := .nil hk _
  counter := ⟨0, hk, .nil 0 _, fun h => by cases h⟩
  callback h := by cases h
  alone h := absurd rfl h

/-- A heartbeat ends: with an attempt the gap closes, without one the counter has kept up with it. -/
theorem CadenceInv.finish (hinv : CadenceInv k s) (hk : 0 < k) (hgap : gap < k)
    (hrecent : Window.GapAtMost gap (fun beat : Record => beat.sent = true) s.beats)
    (hcounter : s.sent = true ∨ (gap : Int) + 1 ≤ s.sentPropertiesCounter % k)
    (hcallback : s.callback = .idle) : CadenceInv k s.finish := by
  have hpos : (0 : Int) < k := by exact_mod_cast hk
  have hcount : ∃ gap' : Nat, gap' < k ∧
      Window.GapAtMost gap' (fun beat : Record => beat.sent = true) s.finish.beats ∧
      (gap' : Int) ≤ s.sentPropertiesCounter % k := by
    by_cases hsent : s.sent = true
    · refine ⟨0, hk, Window.GapAtMost.append_of_pos hsent, ?_⟩
      exact Int.emod_nonneg _ hpos.ne'
    · obtain hsent' | hle := hcounter
      · exact absurd hsent' hsent
      · have hhigh := Int.emod_lt_of_pos s.sentPropertiesCounter hpos
        refine ⟨gap + 1, by omega, hrecent.append _, ?_⟩
        push_cast
        exact hle
  obtain ⟨gap', hgap', hrecent', hle⟩ := hcount
  refine ⟨hinv.recurs.append hrecent' hgap', ⟨gap', hgap', hrecent', fun _ => hle⟩, ?_, ?_⟩
  · intro hresets
    rw [show s.finish.callback = s.callback from rfl, hcallback] at hresets
    cases hresets
  · exact fun hbusy => absurd hcallback hbusy

theorem CadenceInv.start (hinv : CadenceInv k s) (hcallback : s.callback = .idle)
    (hstep : s.start = some s') : CadenceInv k s' := by
  obtain ⟨gap, hgap, hrecent, hok⟩ := hinv.counter
  unfold State.start at hstep
  split at hstep
  · next hbeat =>
    split at hstep
    · obtain rfl := Option.some.inj hstep
      rw [State.CounterOk, hbeat] at hok
      exact ⟨hinv.recurs, ⟨gap, hgap, hrecent, hok⟩, hinv.callback,
        fun hbusy => absurd hcallback hbusy⟩
    · obtain rfl := Option.some.inj hstep
      exact hinv
  · cases hstep

/-- A heartbeat that runs is alone, so a step of it only has to keep the counter in order. -/
theorem CadenceInv.busy (hinv : CadenceInv k s) (hbeat : s.beat ≠ .idle)
    (hbeats : s'.beats = s.beats) (hcallback : s'.callback = s.callback)
    (hcounter : ∃ gap, gap < k ∧
      Window.GapAtMost gap (fun beat : Record => beat.sent = true) s.beats ∧ s'.CounterOk k gap) :
    CadenceInv k s' := by
  have hidle : s.callback = .idle := by
    by_contra hbusy
    exact hbeat (hinv.alone hbusy)
  refine ⟨hbeats ▸ hinv.recurs, ?_, ?_, ?_⟩
  · rw [hbeats]
    exact hcounter
  · intro hresets
    rw [hcallback, hidle] at hresets
    cases hresets
  · intro hbusy
    exact absurd (hcallback.trans hidle) hbusy

theorem CadenceInv.advance (hinv : CadenceInv k s) (hk : 0 < k)
    (hstep : s.advance k = some s') : CadenceInv k s' := by
  obtain ⟨gap, hgap, hrecent, hok⟩ := hinv.counter
  have hpos : (0 : Int) < k := by exact_mod_cast hk
  unfold State.advance at hstep
  split at hstep
  · next hbeat =>
    rw [State.CounterOk, hbeat] at hok
    split at hstep
    · next hset =>
      obtain rfl := Option.some.inj hstep
      exact hinv.busy (by simp [hbeat]) rfl rfl ⟨gap, hgap, hrecent, .inr (hok hset)⟩
    · obtain rfl := Option.some.inj hstep
      exact hinv.busy (by simp [hbeat]) rfl rfl ⟨gap, hgap, hrecent, rfl⟩
  · next hbeat =>
    rw [State.CounterOk, hbeat] at hok
    obtain rfl := Option.some.inj hstep
    exact hinv.busy (by simp [hbeat]) rfl rfl ⟨gap, hgap, hrecent, .inl hok⟩
  · next hbeat =>
    rw [State.CounterOk, hbeat] at hok
    obtain rfl := Option.some.inj hstep
    exact hinv.busy (by simp [hbeat]) rfl rfl ⟨gap, hgap, hrecent, hok⟩
  · next read hbeat =>
    rw [State.CounterOk, hbeat] at hok
    obtain rfl := Option.some.inj hstep
    refine hinv.busy (by simp [hbeat]) rfl rfl ⟨gap, hgap, hrecent, hok.imp_right fun hle => ?_⟩
    dsimp only
    by_cases hzero : (read + 1) % (k : Int) = 0
    · exact .inl hzero
    · right
      rw [emod_add_one read hk hzero]
      omega
  · next hbeat =>
    rw [State.CounterOk, hbeat] at hok
    rw [if_neg hpos.ne', Int.fmod_eq_emod_of_nonneg _ hpos.le] at hstep
    split at hstep
    · obtain rfl := Option.some.inj hstep
      exact hinv.busy (by simp [hbeat]) rfl rfl ⟨gap, hgap, hrecent, rfl⟩
    · next hne =>
      obtain rfl := Option.some.inj hstep
      refine hinv.busy (by simp [hbeat]) rfl rfl ⟨gap, hgap, hrecent, hok.imp_right fun h => ?_⟩
      exact h.resolve_left hne
  · cases hstep

theorem CadenceInv.answer (hinv : CadenceInv k s) (hk : 0 < k) {outcome : Outcome}
    (houtcome : outcome ≠ .otherError) (hstep : s.answer outcome = some s') : CadenceInv k s' := by
  obtain ⟨gap, hgap, hrecent, hok⟩ := hinv.counter
  unfold State.answer at hstep
  split at hstep
  · next issued hbeat =>
    rw [State.CounterOk, hbeat] at hok
    obtain rfl := Option.some.inj hstep
    exact hinv.busy (by simp [hbeat]) rfl rfl ⟨gap, hgap, hrecent, hok⟩
  · next issued hbeat =>
    rw [State.CounterOk, hbeat] at hok
    obtain rfl := Option.some.inj hstep
    exact hinv.busy (by simp [hbeat]) rfl rfl ⟨gap, hgap, hrecent, .inl hok⟩
  · exact absurd rfl houtcome
  · next issued hbeat =>
    rw [State.CounterOk, hbeat] at hok
    obtain rfl := Option.some.inj hstep
    exact hinv.busy (by simp [hbeat]) rfl rfl ⟨gap, hgap, hrecent, .inl hok⟩
  · next issued hbeat =>
    rw [State.CounterOk, hbeat] at hok
    obtain rfl := Option.some.inj hstep
    exact hinv.busy (by simp [hbeat]) rfl rfl ⟨gap, hgap, hrecent, .inl hok⟩
  · exact absurd rfl houtcome
  · next hbeat =>
    rw [State.CounterOk, hbeat] at hok
    obtain rfl := Option.some.inj hstep
    refine hinv.finish hk hgap hrecent hok ?_
    by_contra hbusy
    have hidle := hinv.alone hbusy
    rw [hbeat] at hidle
    cases hidle
  · cases hstep

/-- What a callback must keep for the next heartbeat: while the flag is up it leaves the counter
alone. -/
theorem CadenceInv.between (hinv : CadenceInv k s) (hbeat : s.beat = .idle) (hbeats : s'.beats = s.beats)
    (hbeat' : s'.beat = .idle)
    (hcounter : s'.propertiesSent = true →
      s.propertiesSent = true ∧ s'.sentPropertiesCounter = s.sentPropertiesCounter)
    (hcallback : s'.callback.resets = true → s'.propertiesSent = false) : CadenceInv k s' := by
  obtain ⟨gap, hgap, hrecent, hok⟩ := hinv.counter
  rw [State.CounterOk, hbeat] at hok
  refine ⟨hbeats ▸ hinv.recurs, ⟨gap, hgap, hbeats ▸ hrecent, ?_⟩, hcallback, fun _ => hbeat'⟩
  rw [State.CounterOk, hbeat']
  intro hset
  obtain ⟨hset', hsame⟩ := hcounter hset
  rw [hsame]
  exact hok hset'

theorem CadenceInv.deliver (hinv : CadenceInv k s) (hbeat : s.beat = .idle) {state : Connectivity}
    (hstep : s.deliver variant state = some s') : CadenceInv k s' := by
  unfold State.deliver at hstep
  cases variant with
  | sync =>
      simp only at hstep
      split at hstep
      · obtain rfl := Option.some.inj hstep
        exact hinv.between hbeat rfl hbeat (fun hset => ⟨hset, rfl⟩) fun hresets => by cases hresets
      · cases hstep
  | aio =>
      simp only at hstep
      split at hstep
      · obtain rfl := Option.some.inj hstep
        unfold State.onConnectivity
        split
        · exact hinv.between hbeat rfl hbeat (fun hset => by cases hset) fun _ => rfl
        · exact hinv.between hbeat rfl hbeat (fun hset => ⟨hset, rfl⟩) hinv.callback
      · cases hstep

theorem CadenceInv.stepCallback (hinv : CadenceInv k s) (hbeat : s.beat = .idle)
    (hstep : s.stepCallback = some s') : CadenceInv k s' := by
  have hflag := hinv.callback
  unfold State.stepCallback at hstep
  cases hcallback : s.callback with
  | idle => simp [hcallback] at hstep
  | entered prev state =>
      simp only [hcallback] at hstep
      split at hstep
      · obtain rfl := Option.some.inj hstep
        exact hinv.between hbeat rfl hbeat (fun hset => by cases hset) fun _ => rfl
      · obtain rfl := Option.some.inj hstep
        exact hinv.between hbeat rfl hbeat (fun hset => ⟨hset, rfl⟩) fun hresets => by cases hresets
  | cleared state =>
      -- The counter starts again, but the flag has been taken down before.
      simp only [hcallback] at hstep
      obtain rfl := Option.some.inj hstep
      rw [hcallback] at hflag
      have hdown := hflag rfl
      refine hinv.between hbeat rfl hbeat (fun hset => ?_) fun _ => hdown
      exact absurd (hdown.symm.trans hset) Bool.false_ne_true
  | restarted state =>
      simp only [hcallback] at hstep
      obtain rfl := Option.some.inj hstep
      exact hinv.between hbeat rfl hbeat (fun hset => ⟨hset, rfl⟩) fun hresets => by cases hresets

theorem CadenceInv.step (hinv : CadenceInv k s) (hk : 0 < k) {label : Label}
    (hguard : s.separate label = true) (hstep : Step variant k s label s') : CadenceInv k s' := by
  cases label with
  | start => exact hinv.start (of_decide_eq_true hguard) hstep
  | advance => exact hinv.advance hk hstep
  | answer outcome => exact hinv.answer hk (of_decide_eq_true hguard) hstep
  | deliver state => exact hinv.deliver (of_decide_eq_true hguard) hstep
  | callback => exact hinv.stepCallback (of_decide_eq_true hguard) hstep

theorem goes_on (variant : Variant) (k : Nat) (hbeat : s.beat ≠ .idle) :
    (∃ s', Step variant k s .advance s') ∨ ∀ outcome, ∃ s', Step variant k s (.answer outcome) s' := by
  simp only [Step, State.step, State.advance, State.answer]
  cases hpos : s.beat with
  | idle => exact absurd hpos hbeat
  | ready =>
      left
      by_cases hset : s.propertiesSent = true
      · exact ⟨_, if_pos hset⟩
      · exact ⟨_, if_neg hset⟩
  | registered => exact .inl ⟨_, rfl⟩
  | beating => exact .inl ⟨_, rfl⟩
  | counting read => exact .inl ⟨_, rfl⟩
  | counted =>
      left
      by_cases hzero : (k : Int) = 0
      · exact ⟨_, if_pos hzero⟩
      · simp only [if_neg hzero]
        split
        · exact ⟨_, rfl⟩
        · exact ⟨_, rfl⟩
  | registering issued =>
      right
      intro outcome
      cases outcome <;> exact ⟨_, rfl⟩
  | refreshing issued =>
      right
      intro outcome
      cases outcome <;> exact ⟨_, rfl⟩
  | pinging => exact .inr fun outcome => ⟨_, rfl⟩

/-- A step of a heartbeat that runs brings it closer to its end, and the records grow only when its
`keepAlive` is over. -/
theorem descends (hk : 0 < k) {label : Label} (hguard : s.separate label = true)
    (hstep : Step variant k s label s') (hbeat : s.beat ≠ .idle) :
    s'.beat.left < s.beat.left ∧ (s'.beats ≠ s.beats → s.beat = .pinging) := by
  cases label with
  | start =>
      simp only [Step, State.step, State.start] at hstep
      cases hstep
  | deliver state => exact absurd (of_decide_eq_true hguard) hbeat
  | callback => exact absurd (of_decide_eq_true hguard) hbeat
  | advance =>
      have hne : (k : Int) ≠ 0 := by exact_mod_cast hk.ne'
      simp only [Step, State.step, State.advance, if_neg hne] at hstep
      split at hstep
      · next hpos =>
        rw [hpos]
        split at hstep
        · obtain rfl := Option.some.inj hstep
          exact ⟨by simp [Beat.left], fun hgrown => absurd rfl hgrown⟩
        · obtain rfl := Option.some.inj hstep
          exact ⟨by simp [State.issue, Beat.left], fun hgrown => absurd rfl hgrown⟩
      · next hpos =>
        obtain rfl := Option.some.inj hstep
        rw [hpos]
        exact ⟨by simp [Beat.left], fun hgrown => absurd rfl hgrown⟩
      · next hpos =>
        obtain rfl := Option.some.inj hstep
        rw [hpos]
        exact ⟨by simp [Beat.left], fun hgrown => absurd rfl hgrown⟩
      · next read hpos =>
        obtain rfl := Option.some.inj hstep
        rw [hpos]
        exact ⟨by simp [Beat.left], fun hgrown => absurd rfl hgrown⟩
      · next hpos =>
        rw [hpos]
        split at hstep
        · obtain rfl := Option.some.inj hstep
          exact ⟨by simp [State.issue, Beat.left], fun hgrown => absurd rfl hgrown⟩
        · obtain rfl := Option.some.inj hstep
          exact ⟨by simp [Beat.left], fun hgrown => absurd rfl hgrown⟩
      · cases hstep
  | answer outcome =>
      simp only [Step, State.step, State.answer] at hstep
      split at hstep
      · next issued hpos =>
        obtain rfl := Option.some.inj hstep
        rw [hpos]
        exact ⟨by simp [Beat.left], fun hgrown => absurd rfl hgrown⟩
      · next issued hpos =>
        obtain rfl := Option.some.inj hstep
        rw [hpos]
        exact ⟨by simp [Beat.left], fun hgrown => absurd rfl hgrown⟩
      · simp [State.separate] at hguard
      · next issued hpos =>
        obtain rfl := Option.some.inj hstep
        rw [hpos]
        exact ⟨by simp [Beat.left], fun hgrown => absurd rfl hgrown⟩
      · next issued hpos =>
        obtain rfl := Option.some.inj hstep
        rw [hpos]
        exact ⟨by simp [Beat.left], fun hgrown => absurd rfl hgrown⟩
      · simp [State.separate] at hguard
      · next hpos =>
        obtain rfl := Option.some.inj hstep
        exact ⟨by simp [State.finish, hpos, Beat.left], fun _ => hpos⟩
      · cases hstep

/-- Between the heartbeats no record is made. -/
theorem idle_keeps {label : Label} (hstep : Step variant k s label s') (hbeat : s.beat = .idle) :
    s'.beats = s.beats := by
  cases label with
  | start =>
      simp only [Step, State.step, State.start, hbeat] at hstep
      split at hstep
      all_goals
        obtain rfl := Option.some.inj hstep
        rfl
  | advance => simp [Step, State.step, State.advance, hbeat] at hstep
  | answer outcome => simp [Step, State.step, State.answer, hbeat] at hstep
  | deliver state =>
      cases deliver_effect hstep with
      | kept => rfl
      | cleared => rfl
  | callback =>
      cases stepCallback_effect variant hstep with
      | kept => rfl
      | cleared => rfl

/-- **The properties are sent at least once in every `k` heartbeats.** With a period factor `k` of at
least one, in every run in which callbacks fall between the heartbeats and RPCs succeed or fail with
`RpcError`, any `k` heartbeats in a row on a READY channel have one that tries to send the properties,
and every one of them goes on to its `keepAlive`. -/
theorem properties_cadence (variant : Variant) (k : Nat) (hk : 0 < k) {labels : List Label} {s : State}
    (hrun : Run (Guarded (fun s label => s.separate label = true) (Step variant k)) .init labels s) :
    Cadence variant k s := by
  have hinv : CadenceInv k s := by
    refine hrun.invariant ?_ (CadenceInv.init hk)
    rintro state label next hinv ⟨hguard, hstep⟩
    exact hinv.step hk hguard hstep
  refine ⟨hinv.recurs, goes_on variant k, ?_, ?_⟩
  · intro hbeat label s' hguard hstep
    exact (descends hk hguard hstep hbeat).1
  · intro label s' hguard hstep hgrown
    by_cases hbeat : s.beat = .idle
    · exact absurd (idle_keeps hstep hbeat) hgrown
    · exact (descends hk hguard hstep hbeat).2 hgrown

/-- Four heartbeats. The connection is lost and comes back after the first, whose properties do not
arrive. -/
def lostBetween : List Label :=
  [.deliver .READY, .callback,
    .start, .advance, .answer .rpcError, .advance, .advance, .advance, .answer .ok,
    .deliver .TRANSIENT_FAILURE, .callback, .callback, .callback,
    .deliver .READY, .callback,
    .start, .advance, .answer .ok, .advance, .advance, .advance, .advance, .answer .rpcError,
    .start, .advance, .advance, .advance, .advance, .answer .rpcError, .answer .ok,
    .start, .advance, .advance, .advance, .advance, .answer .rpcError]

theorem failover_cadence :
    ∃ s, Run (Guarded (fun s label => s.separate label = true) (Step .sync (2 : Nat))) .init
      lostBetween s ∧ s.beats.map Record.sent = [true, true, true, false] ∧ Cadence .sync 2 s := by
  have hresult : ∃ s, Run (Guarded (fun s label => s.separate label = true) (Step .sync (2 : Nat)))
      .init lostBetween s ∧ s.beats.map Record.sent = [true, true, true, false] := by
    apply Run.exists_of_guarded_foldlM
    decide
  obtain ⟨s, hrun, hsent⟩ := hresult
  exact ⟨s, hrun, hsent, properties_cadence .sync 2 (by decide) hrun⟩

end Heartbeat

end SkyWalking
