import SkyWalking.Report.BatchWindow

/-!
# The window of a report batch

The waits of a gRPC batch end by its deadline. Those of an HTTP or Kafka batch end within the second after
it, unless the clock reads zero at the first pull: `if not start` takes that for no start at all.
-/

namespace SkyWalking

variable {agentQueueTimeout : Int} {start now : ℚ}

theorem wholeSeconds_of_nonneg {seconds : ℚ} (h : 0 ≤ seconds) : wholeSeconds seconds = ⌊seconds⌋ :=
  if_pos h

/-- Before the deadline the wait lasts until the deadline. -/
theorem queueGetWithinBatch_of_lt {batchDeadline : ℚ} (h : now < batchDeadline)
    (allowImmediate : Bool) :
    queueGetWithinBatch batchDeadline now allowImmediate = some (batchDeadline - now) := by
  have hremaining : 0 < batchDeadline - now := sub_pos.mpr h
  unfold queueGetWithinBatch
  dsimp only
  rw [if_neg fun hboth => not_lt.mpr hboth.1 hremaining, if_pos hremaining]

theorem queueGetWithinBatch_of_le {batchDeadline : ℚ} (h : batchDeadline ≤ now) :
    queueGetWithinBatch batchDeadline now false = none := by
  have hremaining : batchDeadline - now ≤ 0 := sub_nonpos.mpr h
  unfold queueGetWithinBatch
  dsimp only
  rw [if_pos ⟨hremaining, rfl⟩]

/-- The locals of a gRPC generator after its first pull. -/
def BatchLocals.since (agentQueueTimeout : Int) (start : ℚ) : BatchLocals :=
  ⟨some (start + agentQueueTimeout), false⟩

theorem withinBatch_pull_of_lt (h : now < start + agentQueueTimeout) :
    (withinBatch agentQueueTimeout).pull now (BatchLocals.since agentQueueTimeout start) =
      some (start + agentQueueTimeout - now, BatchLocals.since agentQueueTimeout start) := by
  have hget := queueGetWithinBatch_of_lt h false
  simp only [withinBatch, BatchLocals.since, Option.getD_some, hget, Option.map_some]

theorem withinBatch_pull_of_le (h : start + agentQueueTimeout ≤ now) :
    (withinBatch agentQueueTimeout).pull now (BatchLocals.since agentQueueTimeout start) = none := by
  have hget := queueGetWithinBatch_of_le h
  simp only [withinBatch, BatchLocals.since, Option.getD_some, hget, Option.map_none]

theorem withinBatch_pull_first (hpos : 0 < agentQueueTimeout) :
    (withinBatch agentQueueTimeout).pull start (withinBatch agentQueueTimeout).init =
      some (start + agentQueueTimeout - start, BatchLocals.since agentQueueTimeout start) := by
  have hlt : start < start + agentQueueTimeout := lt_add_of_pos_right _ (by exact_mod_cast hpos)
  have hget := queueGetWithinBatch_of_lt hlt true
  simp only [withinBatch, BatchLocals.since, Option.getD_none, hget, Option.map_some]

/-- Every wait is given what is left until the deadline. -/
theorem withinBatch_times (hpos : 0 < agentQueueTimeout) (start : ℚ) :
    (withinBatch agentQueueTimeout).Times start (start + agentQueueTimeout)
      (Protocol.grpc.EndsInTime agentQueueTimeout start)
      (· = BatchLocals.since agentQueueTimeout start) := by
  have hgrants : ∀ now, now < start + agentQueueTimeout →
      (withinBatch agentQueueTimeout).Grants (Protocol.grpc.EndsInTime agentQueueTimeout start)
        (· = BatchLocals.since agentQueueTimeout start) now (start + agentQueueTimeout - now)
        (BatchLocals.since agentQueueTimeout start) := by
    intro now hlt
    refine ⟨rfl, (sub_pos.mpr hlt).le, fun finish hfinish => ?_⟩
    calc
      finish ≤ now + (start + agentQueueTimeout - now) := hfinish
      _ = start + agentQueueTimeout := by ring
  constructor
  · intro timeout locals hpull
    rw [withinBatch_pull_first hpos] at hpull
    obtain ⟨rfl, rfl⟩ := Prod.mk.inj (Option.some.inj hpull)
    exact hgrants start (lt_add_of_pos_right _ (by exact_mod_cast hpos))
  · rintro now - _ rfl timeout locals hpull
    by_cases hlt : now < start + agentQueueTimeout
    · rw [withinBatch_pull_of_lt hlt] at hpull
      obtain ⟨rfl, rfl⟩ := Prod.mk.inj (Option.some.inj hpull)
      exact hgrants now hlt
    · rw [withinBatch_pull_of_le (not_lt.mp hlt)] at hpull
      cases hpull
  · rintro now hle _ rfl
    exact withinBatch_pull_of_le hle

theorem untilTimeout_pull_unset {locals : Option ℚ} (hunset : isUnset locals = true) :
    (untilTimeout agentQueueTimeout).pull now locals =
      some ((agentQueueTimeout : ℚ), (some now : Option ℚ)) := if_pos hunset

/-- With a start that is not taken for none, the whole seconds since then are taken off. -/
theorem untilTimeout_pull_again (hstart : start ≠ 0) (hle : start ≤ now) :
    (untilTimeout agentQueueTimeout).pull now (some start) =
      if agentQueueTimeout ≤ ⌊now - start⌋ then none
      else some (((agentQueueTimeout - ⌊now - start⌋ : Int) : ℚ), some start) := by
  have hset : isUnset (some start) = false := decide_eq_false hstart
  have hwhole : wholeSeconds (now - start) = ⌊now - start⌋ := wholeSeconds_of_nonneg (sub_nonneg.mpr hle)
  simp only [untilTimeout, hset, Option.getD_some, hwhole, Bool.false_eq_true, if_false,
    sub_nonpos]

theorem untilTimeout_times (hpos : 0 < agentQueueTimeout) {protocol : Protocol}
    (hprotocol : protocol ≠ .grpc) (hstart : start ≠ 0) :
    (untilTimeout agentQueueTimeout).Times start (start + agentQueueTimeout)
      (protocol.EndsInTime agentQueueTimeout start) (· = some start) := by
  have hends : ∀ finish, protocol.EndsInTime agentQueueTimeout start finish ↔
      finish < start + agentQueueTimeout + 1 := by
    intro finish
    cases protocol with
    | grpc => exact absurd rfl hprotocol
    | http => exact Iff.rfl
    | kafka => exact Iff.rfl
  have hposQ : (0 : ℚ) < agentQueueTimeout := by exact_mod_cast hpos
  constructor
  · intro timeout locals hpull
    have hfirst : (untilTimeout agentQueueTimeout).pull start none =
        some ((agentQueueTimeout : ℚ), (some start : Option ℚ)) := untilTimeout_pull_unset rfl
    obtain ⟨rfl, rfl⟩ := Prod.mk.inj (Option.some.inj (hfirst.symm.trans hpull))
    refine ⟨rfl, hposQ.le, fun finish hfinish => (hends finish).mpr ?_⟩
    linarith
  · rintro now hle _ rfl timeout locals hpull
    rw [untilTimeout_pull_again hstart hle] at hpull
    split at hpull
    · cases hpull
    · next hleft =>
      obtain ⟨rfl, rfl⟩ := Prod.mk.inj (Option.some.inj hpull)
      have hfloor := Int.lt_floor_add_one (now - start)
      refine ⟨rfl, by exact_mod_cast (by omega), fun finish hfinish => (hends finish).mpr ?_⟩
      -- what was cut off is less than a second
      calc
        finish ≤ now + ((agentQueueTimeout - ⌊now - start⌋ : Int) : ℚ) := hfinish
        _ = start + agentQueueTimeout + (now - start - ⌊now - start⌋) := by
          push_cast
          ring
        _ < start + agentQueueTimeout + 1 := by linarith
  · rintro now hlate _ rfl
    have hover : agentQueueTimeout ≤ ⌊now - start⌋ := Int.le_floor.mpr (by linarith)
    exact (untilTimeout_pull_again hstart (by linarith)).trans (if_pos hover)

/-- Every batch of the protocol that begins at `start` keeps its window, whatever the consumer, the producers
and the queue do. -/
def Protocol.KeepsWindow (protocol : Protocol) (g : Puller) (block : Bool) (agentQueueTimeout : Int)
    (start : ℚ) (Item : Type) : Prop :=
  ∀ (now : ℚ) (events : List (Puller.Event Item)) (s : g.State Item),
    Run (g.Step block) (.start g now) events s → s.began = some start →
    s.Keeps g block (protocol.EndsInTime agentQueueTimeout start) (start + agentQueueTimeout)

/-- A batch that begins when the clock reads zero begins again with its second pull. -/
theorem untilTimeout_breaks_window (hpos : 0 < agentQueueTimeout) (protocol : Protocol) (block : Bool)
    {Item : Type} (item : Item) :
    ¬ protocol.KeepsWindow (untilTimeout agentQueueTimeout) block agentQueueTimeout 0 Item := by
  intro hkeeps
  have hposQ : (0 : ℚ) ≤ agentQueueTimeout := by exact_mod_cast hpos.le
  have hpatience := Puller.patience_nonneg hposQ block
  -- an item is taken at once, and the consumer comes back at the deadline
  let given : (untilTimeout agentQueueTimeout).State Item :=
    { now := agentQueueTimeout
      queue := []
      phase := .suspended (some 0 : Option ℚ)
      began := some 0
      waits := [(0, 0)]
      taken := [item] }
  have hrun : Run ((untilTimeout agentQueueTimeout).Step block)
      (.start (untilTimeout agentQueueTimeout) 0)
      [.arrive item, .pull, .got, .pass agentQueueTimeout] given := by
    apply Run.of_foldlM
    simp [Puller.State.step, Puller.State.start, Puller.State.pulled, Puller.State.waited, given,
      untilTimeout, isUnset, hpatience, hposQ]
  have hnone : (untilTimeout agentQueueTimeout).pull agentQueueTimeout (some 0 : Option ℚ) = none :=
    (hkeeps 0 _ given hrun rfl).pull_eq_none rfl rfl (zero_add _).le
  have hagain : (untilTimeout agentQueueTimeout).pull agentQueueTimeout (some 0 : Option ℚ) =
      some ((agentQueueTimeout : ℚ), (some (agentQueueTimeout : ℚ) : Option ℚ)) :=
    untilTimeout_pull_unset rfl
  rw [hagain] at hnone
  cases hnone

/-- All generators of a protocol keep time in the same way. -/
theorem puller_cases {protocol : Protocol} {kind : ItemKind} {g : Puller}
    (hg : protocol.puller agentQueueTimeout kind = some g) :
    protocol = .grpc ∧ g = withinBatch agentQueueTimeout ∨
      protocol ≠ .grpc ∧ g = untilTimeout agentQueueTimeout := by
  cases protocol with
  | grpc =>
      refine .inl ⟨rfl, ?_⟩
      cases kind <;> exact (Option.some.inj hg).symm
  | http =>
      refine .inr ⟨by decide, ?_⟩
      cases kind with
      | segment => exact (Option.some.inj hg).symm
      | log => exact (Option.some.inj hg).symm
      | meter => cases hg
      | snapshot => cases hg
  | kafka =>
      refine .inr ⟨by decide, ?_⟩
      cases kind with
      | segment => exact (Option.some.inj hg).symm
      | log => exact (Option.some.inj hg).symm
      | meter => exact (Option.some.inj hg).symm
      | snapshot => cases hg

/-- **Batch window.** The waits of gRPC batches end by the deadline, those of HTTP and Kafka batches within
the second after it, and pulls from the deadline on return: exactly if the clock of HTTP and Kafka does not
read zero at the first pull. -/
theorem keeps_window_iff {protocol : Protocol} {kind : ItemKind} {agentQueueTimeout : Int} {g : Puller}
    (hg : protocol.puller agentQueueTimeout kind = some g) (hpos : 0 < agentQueueTimeout)
    (block : Bool) (start : ℚ) {Item : Type} (item : Item) :
    protocol.KeepsWindow g block agentQueueTimeout start Item ↔ protocol = .grpc ∨ start ≠ 0 := by
  obtain ⟨hprotocol, rfl⟩ | ⟨hprotocol, rfl⟩ := puller_cases hg
  · subst hprotocol
    refine iff_of_true ?_ (.inl rfl)
    intro now events s hrun hbegan
    exact (withinBatch_times hpos start).keeps hrun hbegan
  · constructor
    · intro hkeeps
      refine .inr ?_
      rintro rfl
      exact untilTimeout_breaks_window hpos protocol block item hkeeps
    · intro hor now events s hrun hbegan
      exact (untilTimeout_times hpos hprotocol (hor.resolve_left hprotocol)).keeps hrun hbegan

theorem kafka_meters_keep_window :
    Protocol.kafka.KeepsWindow (untilTimeout 1) true 1 1700000000 Nat ↔
      Protocol.kafka = .grpc ∨ (1700000000 : ℚ) ≠ 0 :=
  @keeps_window_iff .kafka .meter 1 _ rfl (by decide) true 1700000000 Nat 0

/-- The generator for the segments over HTTP, at the start of the epoch. -/
theorem http_segments_at_zero :
    ¬ ∀ (protocol : Protocol) (kind : ItemKind) (agentQueueTimeout : Int) (g : Puller),
      protocol.puller agentQueueTimeout kind = some g → 0 < agentQueueTimeout →
      ∀ (block : Bool) (start : ℚ), protocol.KeepsWindow g block agentQueueTimeout start Nat := by
  intro hall
  exact untilTimeout_breaks_window (by decide) .http true 7
    (hall .http .segment 1 (untilTimeout 1) rfl (by decide) true 0)

end SkyWalking
