import SkyWalking.Lib.Slot
import SkyWalking.Report.Sync

/-!
# Conservation in the sync agent
-/

namespace SkyWalking.Sync

/-- The steps of a batch that touch nothing but the batch. -/
inductive Batch.Moves (batch : Batch) : BatchAction → Batch → Prop where
  | opened (hphase : batch.phase = .called) :
      Moves batch .gate { batch with phase := .running, ready := true }
  | skipped (hphase : batch.phase = .called) : Moves batch .gate { batch with phase := .skipped }
  | got (hpulling : batch.pulling = true) :
      Moves batch .got { batch with pulling := false, sent := batch.sent + 1 }
  | ended : Moves batch .endStream { batch with ended := true }
  | succeeded (hphase : batch.phase = .running) :
      Moves batch .succeed { batch with phase := .succeeded }
  | failed (hphase : batch.phase = .running) : Moves batch .fail { batch with phase := .failed }
  | nothingSent (hphase : batch.phase = .failed) (hsent : batch.sent = 0) :
      Moves batch .checkSent { batch with phase := .handled }
  | checked (hphase : batch.phase = .failed) (hsent : batch.sent ≠ 0) :
      Moves batch .checkSent { batch with phase := .checked }

/-- Nothing is dequeued before the gate, which opens only if it sees `READY`. -/
def Batch.Gated (batch : Batch) : Prop :=
  (batch.ready = false → batch.items = []) ∧
    (batch.phase ≠ .called → batch.phase ≠ .skipped → batch.ready = true)

theorem Batch.Gated.moves {batch batch' : Batch} {action : BatchAction} (hgated : batch.Gated)
    (hmoves : batch.Moves action batch') : batch'.Gated ∧ batch'.items = batch.items := by
  obtain ⟨hitems, hready⟩ := hgated
  cases hmoves with
  | opened _ => exact ⟨⟨nofun, fun _ _ => rfl⟩, rfl⟩
  | skipped _ => exact ⟨⟨hitems, fun _ h => absurd rfl h⟩, rfl⟩
  | got _ => exact ⟨⟨hitems, hready⟩, rfl⟩
  | ended => exact ⟨⟨hitems, hready⟩, rfl⟩
  | succeeded hphase =>
      exact ⟨⟨hitems, fun _ _ => hready (by simp [hphase]) (by simp [hphase])⟩, rfl⟩
  | failed hphase =>
      exact ⟨⟨hitems, fun _ _ => hready (by simp [hphase]) (by simp [hphase])⟩, rfl⟩
  | nothingSent hphase _ =>
      exact ⟨⟨hitems, fun _ _ => hready (by simp [hphase]) (by simp [hphase])⟩, rfl⟩
  | checked hphase _ =>
      exact ⟨⟨hitems, fun _ _ => hready (by simp [hphase]) (by simp [hphase])⟩, rfl⟩

/-- The items of a failed batch. -/
def Batch.lost (batch : Batch) : Nat := if batch.Failed then batch.items.length else 0

/-- The items of a failed batch that are still to be counted. -/
def Batch.uncounted (batch : Batch) : Nat :=
  if batch.phase = .failed ∨ batch.phase = .checked then batch.items.length else 0

/-- `sent` is the number of items, but for one that the generator has in its hands. -/
def Batch.SentAll (batch : Batch) : Prop :=
  batch.sent + batch.pulling.toNat = batch.items.length

theorem Batch.SentAll.moves {batch batch' : Batch} {action : BatchAction} (hsent : batch.SentAll)
    (hmoves : batch.Moves action batch') : batch'.SentAll := by
  cases hmoves with
  | got hpulling =>
      rw [SentAll, hpulling] at hsent
      exact hsent
  | _ => exact hsent

/-- A batch that moves stays balanced, if it does not find `sent` at zero with an item in its hands. -/
theorem Batch.Moves.balance {batch batch' : Batch} {action : BatchAction} (hsent : batch.SentAll)
    (hundisturbed : action = .checkSent → batch.sent = 0 → batch.pulling = false)
    (hmoves : batch.Moves action batch') :
    batch'.lost + batch.uncounted = batch.lost + batch'.uncounted := by
  cases hmoves with
  | opened hphase => simp [lost, uncounted, Failed, hphase]
  | skipped hphase => simp [lost, uncounted, Failed, hphase]
  | got _ => rfl
  | ended => rfl
  | succeeded hphase => simp [lost, uncounted, Failed, hphase]
  | failed hphase => simp [lost, uncounted, Failed, hphase]
  | nothingSent hphase hzero =>
      have hpulling := hundisturbed rfl hzero
      have hlength : batch.items.length = 0 := by
        rw [SentAll, hzero, hpulling] at hsent
        exact hsent.symm
      simp [lost, uncounted, Failed, hphase, hlength]
  | checked hphase _ => simp [lost, uncounted, Failed, hphase]

namespace Pipeline

inductive Change (p : Pipeline) : PipelineAction → Pipeline → Prop where
  | accepted :
      Change p .offer { p with queue := p.queue ++ [p.offered], offered := p.offered + 1 }
  | rejected :
      Change p .offer
        { p with
          offered := p.offered + 1
          rejected := p.rejected ++ [p.offered]
          counts := p.counts ++ [⟨.producer, 1, none⟩] }
  | read {index : Nat} {owner : Owner} {count : Nat}
      (hcount : p.counts[index]? = some ⟨owner, count, none⟩) :
      Change p (.countRead index)
        { p with counts := p.counts.set index ⟨owner, count, some (p.dropTotal + count)⟩ }
  | wrote {index : Nat} {owner : Owner} {count total : Nat}
      (hcount : p.counts[index]? = some ⟨owner, count, some total⟩) :
      Change p (.countWrite index)
        { p with dropTotal := total, counts := p.counts.eraseIdx index }
  | reporter {action : ReporterAction} (phase : ReporterPhase) :
      Change p (.reporter action) { p with reporter := phase }
  | called (phase : ReporterPhase) :
      Change p (.reporter .checkQueue) { p.call with reporter := phase }
  | batch {index : Nat} {batch batch' : Batch} {action : BatchAction}
      (hbatch : p.batches[index]? = some batch) (hmoves : batch.Moves action batch') :
      Change p (.batch index action) (p.setBatch index batch')
  | took {index : Nat} {batch : Batch} {item : Nat} {rest : List Nat}
      (hbatch : p.batches[index]? = some batch)
      (hopen : batch.phase ≠ .called ∧ batch.phase ≠ .skipped) (hpulling : batch.pulling = false)
      (hqueue : p.queue = item :: rest) :
      Change p (.batch index .get)
        { p.setBatch index { batch with items := batch.items ++ [item], pulling := true } with
          queue := rest
          dequeued := p.dequeued ++ [item] }
  | counted {index : Nat} {batch : Batch} (hbatch : p.batches[index]? = some batch)
      (hphase : batch.phase = .checked) :
      Change p (.batch index .readSent)
        (logDropped (.batch index) batch.sent (p.setBatch index { batch with phase := .handled }))

variable {p p' : Pipeline} {maxsize : Nat} {ready finished : Bool}

theorem archive_change : Change p .offer (p.archive maxsize) := by
  unfold archive Queue.put
  split
  next queue hput =>
    split at hput
    · cases hput
    · obtain rfl := Option.some.inj hput
      exact .accepted
  next => exact .rejected

theorem countRead_change {index : Nat} (h : p.countRead index = some p') :
    Change p (.countRead index) p' := by
  unfold countRead at h
  split at h
  next owner count hcount =>
    obtain rfl := Option.some.inj h
    exact .read hcount
  next => cases h

theorem countWrite_change {index : Nat} (h : p.countWrite index = some p') :
    Change p (.countWrite index) p' := by
  unfold countWrite at h
  split at h
  next owner count total hcount =>
    obtain rfl := Option.some.inj h
    exact .wrote hcount
  next => cases h

theorem report_change {action : ReporterAction} (h : p.report ready finished action = some p') :
    Change p (.reporter action) p' := by
  cases action with
  | loop =>
      simp only [report, Option.ite_none_right_eq_some, Option.some.injEq] at h
      obtain ⟨-, rfl⟩ := h
      exact .reporter _
  | checkReady =>
      simp only [report, Option.ite_none_right_eq_some, Option.some.injEq] at h
      obtain ⟨-, rfl⟩ := h
      exact .reporter _
  | checkQueue =>
      simp only [report, Option.ite_none_right_eq_some] at h
      obtain ⟨-, h⟩ := h
      split at h <;> obtain rfl := Option.some.inj h
      · exact .reporter _
      · exact .called _
  | callOver =>
      simp only [report] at h
      split at h
      · split at h
        · simp only [Option.ite_none_right_eq_some, Option.some.injEq] at h
          obtain ⟨-, rfl⟩ := h
          exact .reporter _
        · cases h
      · cases h

theorem runBatch_change {index : Nat} {batch : Batch} {action : BatchAction}
    (hbatch : p.batches[index]? = some batch)
    (h : p.runBatch ready index batch action = some p') : Change p (.batch index action) p' := by
  cases action with
  | gate =>
      simp only [runBatch, Option.ite_none_right_eq_some] at h
      obtain ⟨hphase, h⟩ := h
      split at h <;> obtain rfl := Option.some.inj h
      · exact .batch hbatch (.opened hphase)
      · exact .batch hbatch (.skipped hphase)
  | get =>
      simp only [runBatch, Option.ite_none_right_eq_some] at h
      obtain ⟨⟨hcalled, hskipped, hpulling, -⟩, h⟩ := h
      split at h
      next item rest hqueue =>
        obtain rfl := Option.some.inj h
        exact .took hbatch ⟨hcalled, hskipped⟩ (by simpa using hpulling) hqueue
      next => cases h
  | got =>
      simp only [runBatch, Option.ite_none_right_eq_some, Option.some.injEq] at h
      obtain ⟨hpulling, rfl⟩ := h
      exact .batch hbatch (.got hpulling)
  | endStream =>
      simp only [runBatch, Option.ite_none_right_eq_some, Option.some.injEq] at h
      obtain ⟨-, rfl⟩ := h
      exact .batch hbatch .ended
  | succeed =>
      simp only [runBatch, Option.ite_none_right_eq_some, Option.some.injEq] at h
      obtain ⟨hphase, rfl⟩ := h
      exact .batch hbatch (.succeeded hphase)
  | fail =>
      simp only [runBatch, Option.ite_none_right_eq_some, Option.some.injEq] at h
      obtain ⟨hphase, rfl⟩ := h
      exact .batch hbatch (.failed hphase)
  | checkSent =>
      simp only [runBatch, Option.ite_none_right_eq_some] at h
      obtain ⟨hphase, h⟩ := h
      split at h <;> obtain rfl := Option.some.inj h
      next hsent => exact .batch hbatch (.nothingSent hphase hsent)
      next hsent => exact .batch hbatch (.checked hphase hsent)
  | readSent =>
      simp only [runBatch, Option.ite_none_right_eq_some, Option.some.injEq] at h
      obtain ⟨hphase, rfl⟩ := h
      exact .counted hbatch hphase

theorem act_change {action : PipelineAction} (h : p.act maxsize ready finished action = some p') :
    Change p action p' := by
  cases action with
  | offer => exact Option.some.inj h ▸ archive_change
  | countRead index => exact countRead_change h
  | countWrite index => exact countWrite_change h
  | reporter action => exact report_change h
  | batch index action =>
      simp only [act] at h
      split at h
      next batch hbatch => exact runBatch_change hbatch h
      next => cases h

structure Sound (p : Pipeline) : Prop where
  fates : (p.rejected ++ (p.dequeued ++ p.queue)).Perm (List.range p.offered)
  order : (p.dequeued ++ p.queue).Pairwise (· < ·)
  takers : p.dequeued.Perm (p.abandoned ++ p.batches.flatMap Batch.items)
  gated : ∀ batch ∈ p.batches, batch.Gated

theorem Sound.init (active : Bool) (base : Nat) : (init active base).Sound :=
  { fates := .nil
    order := .nil
    takers := .nil
    gated := fun _ h => absurd h List.not_mem_nil }

theorem Sound.setBatch {index : Nat} {batch batch' : Batch} (hsound : p.Sound)
    (hbatch : p.batches[index]? = some batch) (hgated : batch'.Gated)
    (hitems : batch'.items = batch.items) : (p.setBatch index batch').Sound :=
  { fates := hsound.fates
    order := hsound.order
    takers := hsound.takers.trans ((Slot.flatMap_set hbatch hitems).symm.append_left _)
    gated := Slot.forall_mem_set hsound.gated hgated }

theorem Sound.logDropped (hsound : p.Sound) (owner : Owner) (count : Nat) :
    (logDropped owner count p).Sound := by
  unfold Pipeline.logDropped
  split
  · exact hsound
  · exact ⟨hsound.fates, hsound.order, hsound.takers, hsound.gated⟩

theorem Sound.call (hsound : p.Sound) : p.call.Sound :=
  { fates := hsound.fates
    order := hsound.order
    takers := by simpa [Pipeline.call, Batch.new] using hsound.takers
    gated := by
      intro batch hmem
      obtain hmem | hmem := List.mem_append.mp hmem
      · exact hsound.gated batch hmem
      · obtain rfl := List.mem_singleton.mp hmem
        exact ⟨fun _ => rfl, fun h => absurd rfl h⟩ }

theorem Sound.mem_lt_offered (hsound : p.Sound) {item : Nat} (h : item ∈ p.dequeued ++ p.queue) :
    item < p.offered :=
  List.mem_range.mp (hsound.fates.subset (List.mem_append_right p.rejected h))

theorem Sound.accepted (hsound : p.Sound) :
    Sound { p with queue := p.queue ++ [p.offered], offered := p.offered + 1 } :=
  { fates := by
      simp only [List.range_succ, ← List.append_assoc]
      simpa only [List.append_assoc] using hsound.fates.append_right [p.offered]
    order := by
      simp only [← List.append_assoc]
      refine List.pairwise_append.mpr ⟨hsound.order, List.pairwise_singleton _ _, ?_⟩
      intro item hitem last hlast
      obtain rfl := List.mem_singleton.mp hlast
      exact hsound.mem_lt_offered hitem
    takers := hsound.takers
    gated := hsound.gated }

theorem Sound.rejected (hsound : p.Sound) :
    Sound
      { p with
        offered := p.offered + 1
        rejected := p.rejected ++ [p.offered]
        counts := p.counts ++ [⟨.producer, 1, none⟩] } :=
  { fates := by
      simp only [List.range_succ, List.append_assoc]
      refine List.Perm.trans ?_ (hsound.fates.append_right [p.offered])
      rw [List.append_assoc]
      exact List.perm_append_comm.append_left p.rejected
    order := hsound.order
    takers := hsound.takers
    gated := hsound.gated }

/-- The first item leaves the queue, for a batch or to be abandoned. -/
theorem Sound.dequeue {item : Nat} {rest : List Nat} (hsound : p.Sound) (hqueue : p.queue = item :: rest)
    (hrejected : p'.rejected = p.rejected) (hoffered : p'.offered = p.offered)
    (hdequeued : p'.dequeued = p.dequeued ++ [item]) (hrest : p'.queue = rest)
    (htakers : (p.abandoned ++ p.batches.flatMap Batch.items ++ [item]).Perm
      (p'.abandoned ++ p'.batches.flatMap Batch.items))
    (hgated : ∀ batch ∈ p'.batches, batch.Gated) : p'.Sound := by
  have hsame : p'.dequeued ++ p'.queue = p.dequeued ++ p.queue := by
    rw [hdequeued, hrest, hqueue, List.append_assoc, List.singleton_append]
  constructor
  · rw [hsame, hrejected, hoffered]
    exact hsound.fates
  · rw [hsame]
    exact hsound.order
  · rw [hdequeued]
    exact (hsound.takers.append_right [item]).trans htakers
  · exact hgated

theorem Sound.took {index : Nat} {batch : Batch} {item : Nat} {rest : List Nat} (hsound : p.Sound)
    (hbatch : p.batches[index]? = some batch)
    (hopen : batch.phase ≠ .called ∧ batch.phase ≠ .skipped) (hqueue : p.queue = item :: rest) :
    Sound
      { p.setBatch index { batch with items := batch.items ++ [item], pulling := true } with
        queue := rest
        dequeued := p.dequeued ++ [item] } := by
  have hready := (hsound.gated batch (List.mem_of_getElem? hbatch)).2 hopen.1 hopen.2
  refine hsound.dequeue hqueue rfl rfl rfl rfl ?_ ?_
  · rw [List.append_assoc]
    exact (Slot.flatMap_set_append hbatch rfl).symm.append_left p.abandoned
  · apply Slot.forall_mem_set hsound.gated
    exact ⟨fun h => absurd (hready.symm.trans h) (by decide), fun _ _ => hready⟩

theorem Sound.abandonOne (hsound : p.Sound) (h : p.abandonOne = some p') : p'.Sound := by
  unfold Pipeline.abandonOne at h
  split at h
  next item rest hqueue =>
    obtain rfl := Option.some.inj h
    refine hsound.dequeue hqueue rfl rfl rfl rfl ?_ ?_
    · rw [List.append_assoc, List.append_assoc]
      exact List.perm_append_comm.append_left p.abandoned
    · exact hsound.gated
  next => cases h

theorem Sound.flush {maySend : Bool} (hsound : p.Sound) : (p.flush maySend).Sound := by
  unfold Pipeline.flush
  split
  · exact hsound.call
  · exact hsound

theorem Sound.countAbandoned (hsound : p.Sound) : p.countAbandoned.Sound :=
  have hlogged := hsound.logDropped .shutdown p.abandoning
  ⟨hlogged.fates, hlogged.order, hlogged.takers, hlogged.gated⟩

theorem Sound.change {action : PipelineAction} (hsound : p.Sound) (h : Change p action p') :
    p'.Sound := by
  cases h with
  | accepted => exact hsound.accepted
  | rejected => exact hsound.rejected
  | read _ => exact ⟨hsound.fates, hsound.order, hsound.takers, hsound.gated⟩
  | wrote _ => exact ⟨hsound.fates, hsound.order, hsound.takers, hsound.gated⟩
  | reporter _ => exact ⟨hsound.fates, hsound.order, hsound.takers, hsound.gated⟩
  | called _ => exact ⟨hsound.call.fates, hsound.call.order, hsound.call.takers, hsound.call.gated⟩
  | batch hbatch hmoves =>
      have hkept := (hsound.gated _ (List.mem_of_getElem? hbatch)).moves hmoves
      exact hsound.setBatch hbatch hkept.1 hkept.2
  | took hbatch hopen _ hqueue => exact hsound.took hbatch hopen hqueue
  | counted hbatch hphase =>
      have hgated := hsound.gated _ (List.mem_of_getElem? hbatch)
      apply Sound.logDropped
      refine hsound.setBatch hbatch ⟨hgated.1, fun _ _ => ?_⟩ rfl
      exact hgated.2 (by simp [hphase]) (by simp [hphase])

structure Exact (base : Nat) (p : Pipeline) : Prop where
  sent : ∀ batch ∈ p.batches, batch.SentAll
  /-- What a thread will write is right, since nobody has written after it read. -/
  current : ∀ count ∈ p.counts, ∀ total ∈ count.total, total = p.dropTotal + count.count
  single : p.counts.countP (fun count => count.total.isSome) ≤ 1
  balance : p.dropTotal + (p.counts.map Count.count).sum + (p.batches.map Batch.uncounted).sum +
      p.abandoning =
    base + p.rejected.length + p.abandoned.length + (p.batches.map Batch.lost).sum

variable {base : Nat}

theorem Exact.init (active : Bool) (base : Nat) : (init active base).Exact base :=
  { sent := fun _ h => absurd h List.not_mem_nil
    current := fun _ h => absurd h List.not_mem_nil
    single := Nat.zero_le 1
    balance := rfl }

/-- A count that nobody has begun is added. -/
theorem Exact.addCount (hexact : p.Exact base) {p' : Pipeline} (owner : Owner) (count : Nat)
    (hcounts : p'.counts = p.counts ++ [⟨owner, count, none⟩])
    (hsent : ∀ batch ∈ p'.batches, batch.SentAll) (htotal : p'.dropTotal = p.dropTotal)
    (hbalance : p'.dropTotal + (p'.counts.map Count.count).sum +
        (p'.batches.map Batch.uncounted).sum + p'.abandoning =
      base + p'.rejected.length + p'.abandoned.length + (p'.batches.map Batch.lost).sum) :
    p'.Exact base :=
  { sent := hsent
    current := by
      intro other hother total htotal'
      rw [htotal]
      rw [hcounts] at hother
      obtain hother | hother := List.mem_append.mp hother
      · exact hexact.current other hother total htotal'
      · obtain rfl := List.mem_singleton.mp hother
        cases htotal'
    single := by
      rw [hcounts]
      simpa using hexact.single
    balance := hbalance }

theorem Exact.rejected (hexact : p.Exact base) :
    Exact base
      { p with
        offered := p.offered + 1
        rejected := p.rejected ++ [p.offered]
        counts := p.counts ++ [⟨.producer, 1, none⟩] } := by
  refine hexact.addCount .producer 1 rfl hexact.sent rfl ?_
  have hbalance := hexact.balance
  simp only [List.map_append, List.sum_append, List.map_cons, List.map_nil, List.sum_cons,
    List.sum_nil, List.length_append, List.length_cons, List.length_nil]
  omega

theorem Exact.read {index : Nat} {owner : Owner} {count : Nat} (hexact : p.Exact base)
    (hcount : p.counts[index]? = some ⟨owner, count, none⟩)
    (halone : ∀ other ∈ p.counts, other.total = none) :
    Exact base
      { p with counts := p.counts.set index ⟨owner, count, some (p.dropTotal + count)⟩ } :=
  { sent := hexact.sent
    current := by
      refine Slot.forall_mem_set hexact.current ?_
      rintro total ⟨⟩
      rfl
    single := by
      have hnone : p.counts.countP (fun count => count.total.isSome) = 0 := by
        rw [List.countP_eq_zero]
        intro other hother
        simp [halone other hother]
      have hrest : (p.counts.eraseIdx index).countP (fun count => count.total.isSome) = 0 := by
        have hperm := (Slot.perm_cons hcount).countP_eq fun count => count.total.isSome
        rw [hnone, List.countP_cons] at hperm
        omega
      rw [(Slot.set_perm_cons hcount _).countP_eq, List.countP_cons, hrest]
      simp
    balance := by
      have hsum := Slot.sum_map_set hcount ⟨owner, count, some (p.dropTotal + count)⟩ Count.count
      have hbalance := hexact.balance
      dsimp only at hsum ⊢
      omega }

theorem Exact.wrote {index : Nat} {owner : Owner} {count total : Nat} (hexact : p.Exact base)
    (hcount : p.counts[index]? = some ⟨owner, count, some total⟩) :
    Exact base { p with dropTotal := total, counts := p.counts.eraseIdx index } := by
  have hrest : (p.counts.eraseIdx index).countP (fun count => count.total.isSome) = 0 := by
    have hperm := (Slot.perm_cons hcount).countP_eq fun count => count.total.isSome
    have hsingle := hexact.single
    rw [List.countP_cons] at hperm
    simp only [Option.isSome_some, if_true] at hperm
    omega
  exact
    { sent := hexact.sent
      current := by
        intro other hother total' htotal'
        have hnone := List.countP_eq_zero.mp hrest other hother
        rw [Option.mem_def] at htotal'
        simp [htotal'] at hnone
      single := le_of_eq_of_le hrest (Nat.zero_le 1)
      balance := by
        have htotal := hexact.current _ (List.mem_of_getElem? hcount) total rfl
        have hsum := Slot.sum_map_eq hcount Count.count
        have hbalance := hexact.balance
        dsimp only at htotal hsum ⊢
        omega }

theorem Exact.call (hexact : p.Exact base) : p.call.Exact base :=
  { sent := by
      intro batch hmem
      obtain hmem | hmem := List.mem_append.mp hmem
      · exact hexact.sent batch hmem
      · obtain rfl := List.mem_singleton.mp hmem
        rfl
    current := hexact.current
    single := hexact.single
    balance := by
      have hnew : Batch.new.lost = 0 ∧ Batch.new.uncounted = 0 := by decide
      simpa [Pipeline.call, hnew] using hexact.balance }

theorem Exact.setBatch {index : Nat} {batch batch' : Batch} (hexact : p.Exact base)
    (hbatch : p.batches[index]? = some batch) (hsent : batch'.SentAll)
    (hbalance : batch'.lost + batch.uncounted = batch.lost + batch'.uncounted) :
    (p.setBatch index batch').Exact base :=
  { sent := Slot.forall_mem_set hexact.sent hsent
    current := hexact.current
    single := hexact.single
    balance := by
      have hlost := Slot.sum_map_set hbatch batch' Batch.lost
      have huncounted := Slot.sum_map_set hbatch batch' Batch.uncounted
      have htotal := hexact.balance
      simp only [Pipeline.setBatch]
      omega }

theorem Exact.took {index : Nat} {batch : Batch} {item : Nat} {rest : List Nat}
    (hexact : p.Exact base) (hbatch : p.batches[index]? = some batch)
    (hpulling : batch.pulling = false) (hhandled : batch.phase ≠ .handled) :
    Exact base
      { p.setBatch index { batch with items := batch.items ++ [item], pulling := true } with
        queue := rest
        dequeued := p.dequeued ++ [item] } := by
  have hsent := hexact.sent batch (List.mem_of_getElem? hbatch)
  have hset : (p.setBatch index
      { batch with items := batch.items ++ [item], pulling := true }).Exact base := by
    refine hexact.setBatch hbatch ?_ ?_
    · rw [Batch.SentAll, hpulling] at hsent
      simpa [Batch.SentAll] using hsent
    · -- Before the count the item is lost and uncounted at once, in a live batch it is neither.
      simp only [Batch.lost, Batch.uncounted, Batch.Failed, hhandled, or_false]
      omega
  exact ⟨hset.sent, hset.current, hset.single, hset.balance⟩

theorem Exact.logDropped (hexact : p.Exact base) {p' : Pipeline} (owner : Owner) (count : Nat)
    (hcounts : p'.counts = p.counts) (hsent : ∀ batch ∈ p'.batches, batch.SentAll)
    (htotal : p'.dropTotal = p.dropTotal)
    (hbalance : p'.dropTotal + (p'.counts.map Count.count).sum + count +
        (p'.batches.map Batch.uncounted).sum + p'.abandoning =
      base + p'.rejected.length + p'.abandoned.length + (p'.batches.map Batch.lost).sum) :
    (logDropped owner count p').Exact base := by
  unfold Pipeline.logDropped
  split
  next hzero =>
    exact
      { sent := hsent
        current := by
          rw [hcounts, htotal]
          exact hexact.current
        single := by
          rw [hcounts]
          exact hexact.single
        balance := by omega }
  next =>
    refine hexact.addCount owner count (by simp [hcounts]) hsent htotal ?_
    simp only [List.map_append, List.sum_append, List.map_cons, List.map_nil, List.sum_cons,
      List.sum_nil]
    omega

theorem Exact.counted {index : Nat} {batch : Batch} (hexact : p.Exact base)
    (hbatch : p.batches[index]? = some batch) (hphase : batch.phase = .checked)
    (hpulling : batch.pulling = false) :
    (Pipeline.logDropped (.batch index) batch.sent
      (p.setBatch index { batch with phase := .handled })).Exact base := by
  have hsent := hexact.sent batch (List.mem_of_getElem? hbatch)
  have hlength : batch.sent = batch.items.length := by
    rw [Batch.SentAll, hpulling] at hsent
    exact hsent
  have hlost : Batch.lost { batch with phase := .handled } = batch.lost := by
    simp [Batch.lost, Batch.Failed, hphase]
  have huncounted : batch.uncounted = batch.sent := by simp [Batch.uncounted, hphase, hlength]
  have hcounted : Batch.uncounted { batch with phase := .handled } = 0 := by simp [Batch.uncounted]
  refine hexact.logDropped _ _ rfl (Slot.forall_mem_set hexact.sent hsent) rfl ?_
  have hlostSum := Slot.sum_map_set hbatch { batch with phase := .handled } Batch.lost
  have huncountedSum := Slot.sum_map_set hbatch { batch with phase := .handled } Batch.uncounted
  have hbalance := hexact.balance
  simp only [Pipeline.setBatch]
  omega

theorem Exact.abandonOne (hexact : p.Exact base) (h : p.abandonOne = some p') : p'.Exact base := by
  unfold Pipeline.abandonOne at h
  split at h
  next item rest hqueue =>
    obtain rfl := Option.some.inj h
    refine ⟨hexact.sent, hexact.current, hexact.single, ?_⟩
    have hbalance := hexact.balance
    simp only [List.length_append, List.length_cons, List.length_nil]
    omega
  next => cases h

theorem Exact.flush {maySend : Bool} (hexact : p.Exact base) : (p.flush maySend).Exact base := by
  unfold Pipeline.flush
  split
  · exact hexact.call
  · exact hexact

theorem Exact.countAbandoned (hexact : p.Exact base) : p.countAbandoned.Exact base := by
  have hlogged : (Pipeline.logDropped .shutdown p.abandoning { p with abandoning := 0 }).Exact base := by
    refine hexact.logDropped _ _ rfl hexact.sent rfl ?_
    have hbalance := hexact.balance
    dsimp only
    omega
  have hsame : p.countAbandoned =
      Pipeline.logDropped .shutdown p.abandoning { p with abandoning := 0 } := by
    unfold Pipeline.countAbandoned Pipeline.logDropped
    split <;> rfl
  rw [hsame]
  exact hlogged

theorem Exact.change {action : PipelineAction} (hexact : p.Exact base)
    (hundisturbed : p.Undisturbed action) (h : Change p action p') : p'.Exact base := by
  cases h with
  | accepted => exact ⟨hexact.sent, hexact.current, hexact.single, hexact.balance⟩
  | rejected => exact hexact.rejected
  | read hcount => exact hexact.read hcount hundisturbed
  | wrote hcount => exact hexact.wrote hcount
  | reporter _ => exact ⟨hexact.sent, hexact.current, hexact.single, hexact.balance⟩
  | called _ =>
      exact ⟨hexact.call.sent, hexact.call.current, hexact.call.single, hexact.call.balance⟩
  | batch hbatch hmoves =>
      have hsent := hexact.sent _ (List.mem_of_getElem? hbatch)
      refine hexact.setBatch hbatch (hsent.moves hmoves) (hmoves.balance hsent ?_)
      rintro rfl
      exact hundisturbed _ hbatch
  | took hbatch _ hpulling _ => exact hexact.took hbatch hpulling (hundisturbed _ hbatch)
  | counted hbatch hphase => exact hexact.counted hbatch hphase (hundisturbed _ hbatch)

theorem Sound.conserved (hsound : p.Sound) : p.Conserved := by
  refine List.Perm.trans ?_ hsound.fates
  rw [List.append_assoc, List.append_assoc]
  refine List.Perm.append_left p.rejected ?_
  refine List.perm_append_comm.trans ?_
  exact hsound.takers.symm.append_right p.queue

theorem Sound.inPutOrder (hsound : p.Sound) : p.InPutOrder := ⟨hsound.order, hsound.takers⟩

theorem Sound.isGated (hsound : p.Sound) : p.Gated := fun batch hbatch =>
  (hsound.gated batch hbatch).1

theorem sum_lost (batches : List Batch) :
    (batches.map Batch.lost).sum =
      ((batches.filter fun batch => batch.Failed).map fun batch => batch.items.length).sum := by
  induction batches with
  | nil => rfl
  | cons batch rest ih =>
      rw [List.map_cons, List.sum_cons, ih, List.filter_cons]
      by_cases hfailed : batch.Failed
      · simp [Batch.lost, hfailed]
      · simp [Batch.lost, hfailed]

theorem Exact.counted_of_settled (hexact : p.Exact base) (hsettled : p.Settled) :
    p.Counted base := by
  obtain ⟨hcounts, habandoning, hphases⟩ := hsettled
  have huncounted : (p.batches.map Batch.uncounted).sum = 0 := by
    rw [List.sum_eq_zero_iff_forall_eq_nat]
    intro amount hamount
    obtain ⟨batch, hbatch, rfl⟩ := List.mem_map.mp hamount
    simp [Batch.uncounted, hphases batch hbatch]
  have hbalance := hexact.balance
  rw [Counted, ← sum_lost]
  rw [hcounts, List.map_nil, List.sum_nil] at hbalance
  omega

end Pipeline

section Agent

variable {config : Config} {agent agent' : Agent} {action : Action}

/-- One step of the agent: at most one pipeline changes, by one of its own steps or by the shutdown. -/
theorem Step.pipelines (h : Step config agent action agent') (kind : ItemKind) {I : Pipeline → Prop}
    (hI : I (agent.pipeline kind))
    (hact : ∀ pipelineAction p', action = .pipeline kind pipelineAction →
      Pipeline.Change (agent.pipeline kind) pipelineAction p' → I p')
    (hflush : ∀ maySend, I ((agent.pipeline kind).flush maySend))
    (habandon : ∀ p', (agent.pipeline kind).abandonOne = some p' → I p')
    (hcount : I (agent.pipeline kind).countAbandoned) : I (agent'.pipeline kind) := by
  have hset : ∀ {other : ItemKind} {p : Pipeline}, (other = kind → I p) →
      I ((agent.setPipeline other p).pipeline kind) := by
    intro other p hp
    simp only [Agent.setPipeline]
    by_cases heq : kind = other
    · subst heq
      rw [Function.update_self]
      exact hp rfl
    · rw [Function.update_of_ne heq]
      exact hI
  cases action with
  | connectivity state =>
      obtain rfl := Option.some.inj h
      exact hI
  | pipeline other pipelineAction =>
      simp only [Step, Agent.step, Option.ite_none_right_eq_some, Option.map_eq_some_iff] at h
      obtain ⟨-, p, hp, rfl⟩ := h
      refine hset ?_
      rintro rfl
      exact hact _ p rfl (Pipeline.act_change hp)
  | finish =>
      simp only [Step, Agent.step, Option.ite_none_right_eq_some, Option.some.injEq] at h
      obtain ⟨-, rfl⟩ := h
      exact hI
  | maySend =>
      simp only [Step, Agent.step, Option.ite_none_right_eq_some, Option.some.injEq] at h
      obtain ⟨-, rfl⟩ := h
      exact hI
  | flush =>
      simp only [Step, Agent.step] at h
      split at h
      next maySend other later _ =>
        obtain rfl := Option.some.inj h
        refine hset ?_
        rintro rfl
        exact hflush maySend
      next => cases h
  | abandon =>
      simp only [Step, Agent.step] at h
      split at h
      next maySend other later _ =>
        split at h
        next p hp =>
          obtain rfl := Option.some.inj h
          refine hset ?_
          rintro rfl
          exact habandon p hp
        next =>
          obtain rfl := Option.some.inj h
          refine hset ?_
          rintro rfl
          exact hcount
      next => cases h
  | join =>
      simp only [Step, Agent.step] at h
      split at h
      next =>
        simp only [Option.ite_none_right_eq_some, Option.some.injEq] at h
        obtain ⟨-, rfl⟩ := h
        exact hI
      next => cases h

theorem sound_run {base : ItemKind → Nat} {actions : List Action}
    (hrun : Run (Step config) (.init config base) actions agent) (kind : ItemKind) :
    (agent.pipeline kind).Sound := by
  refine hrun.invariant (I := fun agent => (agent.pipeline kind).Sound) ?_
    (Pipeline.Sound.init (config.active kind) (base kind))
  intro agent action agent' hsound hstep
  exact hstep.pipelines kind hsound (fun _ _ _ hchange => hsound.change hchange)
    (fun _ => hsound.flush) (fun _ h => hsound.abandonOne h) hsound.countAbandoned

theorem exact_run {base : ItemKind → Nat} {actions : List Action}
    (hrun : Run (Guarded Agent.Undisturbed (Step config)) (.init config base) actions agent)
    (kind : ItemKind) : (agent.pipeline kind).Exact (base kind) := by
  refine hrun.invariant (I := fun agent => (agent.pipeline kind).Exact (base kind)) ?_
    (Pipeline.Exact.init (config.active kind) (base kind))
  rintro agent action agent' hexact ⟨hundisturbed, hstep⟩
  refine hstep.pipelines kind hexact ?_ (fun _ => hexact.flush) (fun _ h => hexact.abandonOne h)
    hexact.countAbandoned
  rintro pipelineAction p' rfl hchange
  exact hexact.change hundisturbed hchange

/-- Items are conserved, dequeued in order and kept while the gate is closed in every run; the total of
drops is exact in the undisturbed ones. -/
theorem sync_agent_accounts_for_items (config : Config) (base : ItemKind → Nat) :
    (∀ actions agent, Run (Step config) (.init config base) actions agent →
      ∀ kind, (agent.pipeline kind).Conserved ∧ (agent.pipeline kind).InPutOrder ∧
        (agent.pipeline kind).Gated) ∧
    (∀ actions agent,
      Run (Guarded Agent.Undisturbed (Step config)) (.init config base) actions agent →
      ∀ kind, (agent.pipeline kind).Settled → (agent.pipeline kind).Counted (base kind)) := by
  constructor
  · intro actions agent hrun kind
    have hsound := sound_run hrun kind
    exact ⟨hsound.conserved, hsound.inPutOrder, hsound.isGated⟩
  · intro actions agent hrun kind hsettled
    exact (exact_run hrun kind).counted_of_settled hsettled

/-- The agent that an executed run ends in, with what a test finds there. -/
theorem exists_run {guard : Agent → Action → Prop} [∀ agent action, Decidable (guard agent action)]
    {actions : List Action} {P : Agent → Prop} [DecidablePred P]
    (h : (runSteps config guard agent actions).any (fun agent => decide (P agent)) = true) :
    ∃ agent', Run (Guarded guard (Step config)) agent actions agent' ∧ P agent' := by
  obtain ⟨agent', hrun, hfacts⟩ := Run.exists_of_foldlM h
  exact ⟨agent', hrun.mono fun _ _ _ hstep => Option.ite_none_right_eq_some.mp hstep, hfacts⟩

end Agent

/-- Only segments are reported, from a queue of one. -/
def smallConfig : Config :=
  { maxsize := fun _ => 1
    logReporterActive := false
    profileActive := false
    meterReporterActive := false }

/-- One segment is rejected, one is lost with its batch and one is abandoned at shutdown. -/
def lossyLife : List Action :=
  [.connectivity .READY, .pipeline .segment .offer, .pipeline .segment .offer,
    .pipeline .segment (.countRead 0), .pipeline .segment (.countWrite 0),
    .pipeline .segment (.reporter .loop), .pipeline .segment (.reporter .checkReady),
    .pipeline .segment (.reporter .checkQueue), .pipeline .segment (.batch 0 .gate),
    .pipeline .segment (.batch 0 .get), .pipeline .segment (.batch 0 .got),
    .pipeline .segment (.batch 0 .fail), .pipeline .segment (.batch 0 .checkSent),
    .pipeline .segment (.batch 0 .readSent), .pipeline .segment (.countRead 0),
    .pipeline .segment (.countWrite 0), .pipeline .segment .offer, .finish, .maySend, .flush,
    .abandon, .abandon, .pipeline .segment (.countRead 0), .pipeline .segment (.countWrite 0), .join]

theorem lossy_life_counted :
    ∃ agent,
      Run (Guarded Agent.Undisturbed (Step smallConfig)) (.init smallConfig fun _ => 5) lossyLife
        agent ∧
      (agent.pipeline .segment).Conserved ∧ (agent.pipeline .segment).dropTotal = 8 ∧
      (agent.pipeline .segment).Counted 5 := by
  have hresult : ∃ agent, Run (Guarded Agent.Undisturbed (Step smallConfig))
      (.init smallConfig fun _ => 5) lossyLife agent ∧ (agent.pipeline .segment).Settled ∧
      (agent.pipeline .segment).dropTotal = 8 := by
    apply exists_run
    decide +kernel
  obtain ⟨agent, hrun, hsettled, htotal⟩ := hresult
  obtain ⟨hall, hcounted⟩ := sync_agent_accounts_for_items smallConfig fun _ => 5
  exact ⟨agent, hrun, (hall _ agent (hrun.mono fun _ _ _ h => h.2) .segment).1, htotal,
    hcounted _ agent hrun .segment hsettled⟩

/-- Two producers are rejected and both read the total before one of them writes it. -/
def lostUpdate : List Action :=
  [.pipeline .segment .offer, .pipeline .segment .offer, .pipeline .segment .offer,
    .pipeline .segment (.countRead 0), .pipeline .segment (.countRead 1),
    .pipeline .segment (.countWrite 0), .pipeline .segment (.countWrite 0)]

/-- The call fails and finds `sent` at zero before gRPC pulls its generator. -/
def latePull : List Action :=
  [.connectivity .READY, .pipeline .segment .offer, .pipeline .segment (.reporter .loop),
    .pipeline .segment (.reporter .checkReady), .pipeline .segment (.reporter .checkQueue),
    .pipeline .segment (.batch 0 .gate), .pipeline .segment (.batch 0 .fail),
    .pipeline .segment (.batch 0 .checkSent), .pipeline .segment (.batch 0 .get),
    .pipeline .segment (.batch 0 .got)]

theorem settled_total_wrong :
    (∃ agent, Run (Step smallConfig) (.init smallConfig fun _ => 0) lostUpdate agent ∧
      (agent.pipeline .segment).Settled ∧ (agent.pipeline .segment).rejected = [1, 2] ∧
      (agent.pipeline .segment).dropTotal = 1 ∧ ¬ (agent.pipeline .segment).Counted 0) ∧
    (∃ agent, Run (Step smallConfig) (.init smallConfig fun _ => 0) latePull agent ∧
      (agent.pipeline .segment).Settled ∧ (agent.pipeline .segment).dequeued = [0] ∧
      (agent.pipeline .segment).dropTotal = 0 ∧ ¬ (agent.pipeline .segment).Counted 0) := by
  constructor
  · apply Run.exists_of_foldlM
    decide +kernel
  · apply Run.exists_of_foldlM
    decide +kernel

end SkyWalking.Sync
