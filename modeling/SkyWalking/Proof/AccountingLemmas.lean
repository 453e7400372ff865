import Mathlib
import SkyWalking.Lib.Slot
import SkyWalking.Report.Accounting

/-!
# Every get is matched by one task_done

A consumer that holds an item goes on to `task_done` and to nothing else; all other exits of a consumer
lie before its `get` or after its `task_done`.
-/

namespace SkyWalking.Accounting

variable {Item : Type}

def Consumer.holds (consumer : Consumer) : Bool := consumer.position == .holding

/-- What a step of a consumer does to the account: nothing, a get or a `task_done`. -/
inductive Entry (s : State Item) (index : Nat) (consumer : Consumer) : State Item → Prop where
  | none (consumer' : Consumer) :
      consumer.holds = false → consumer'.holds = false →
      Entry s index consumer (s.setConsumer index consumer')
  | get (item : Item) (rest : List Item) (consumer' : Consumer) :
      s.queue = item :: rest → consumer.holds = false → consumer'.holds = true →
      Entry s index consumer
        ({ s with queue := rest, gets := s.gets + 1 }.setConsumer index consumer')
  | taskDone :
      consumer.holds = true → Entry s index consumer (s.taskDone index consumer)

theorem holds_afterDone (consumer : Consumer) (raises : Bool) :
    (consumer.afterDone raises).holds = false := by
  unfold Consumer.afterDone Consumer.holds
  split
  · rfl
  · simp only
    split <;> rfl

theorem entry_of_get {s s' : State Item} {index : Nat} {consumer : Consumer}
    (hholds : consumer.holds = false) (hget : s.get index consumer = some s') :
    Entry s index consumer s' := by
  unfold State.get at hget
  split at hget
  · next item rest hqueue =>
      obtain rfl := Option.some.inj hget
      exact .get item rest _ hqueue hholds rfl
  · cases hget
  · obtain rfl := Option.some.inj hget
    exact .none _ hholds rfl

theorem entry_of_consume {s s' : State Item} {index : Nat} {consumer : Consumer} {choice : Choice}
    (hstep : s.consume index consumer choice = some s') : Entry s index consumer s' := by
  unfold State.consume at hstep
  cases hposition : consumer.position with
  | fetching first =>
      have hholds : consumer.holds = false := by simp [Consumer.holds, hposition]
      simp only [hposition] at hstep
      split at hstep
      · exact entry_of_get hholds hstep
      · split at hstep
        · obtain rfl := Option.some.inj hstep
          exact .none _ hholds rfl
        · cases hstep
      · split at hstep
        · obtain rfl := Option.some.inj hstep
          exact .none _ hholds rfl
        · cases hstep
      · split at hstep
        · obtain rfl := Option.some.inj hstep
          exact .none _ hholds rfl
        · cases hstep
      · cases hstep
  | holding =>
      simp only [hposition] at hstep
      split at hstep
      · obtain rfl := Option.some.inj hstep
        exact .taskDone (by simp [Consumer.holds, hposition])
      · cases hstep
  | building =>
      have hholds : consumer.holds = false := by simp [Consumer.holds, hposition]
      simp only [hposition] at hstep
      split at hstep
      · obtain rfl := Option.some.inj hstep
        exact .none _ hholds (holds_afterDone consumer false)
      · obtain rfl := Option.some.inj hstep
        exact .none _ hholds (holds_afterDone consumer true)
      · cases hstep
  | yielded =>
      have hholds : consumer.holds = false := by simp [Consumer.holds, hposition]
      simp only [hposition] at hstep
      split at hstep
      · obtain rfl := Option.some.inj hstep
        exact .none _ hholds rfl
      · obtain rfl := Option.some.inj hstep
        exact .none _ hholds rfl
      · cases hstep
  | ended => simp [hposition] at hstep

/-- The account of a queue. -/
structure Balanced (s : State Item) : Prop where
  unfinished : s.unfinishedTasks = s.queue.length + s.pending
  matched : s.gets = s.dones + s.pending
  clean : s.valueErrors = 0

theorem pending_setConsumer {s : State Item} {index : Nat} {consumer : Consumer}
    (hconsumer : s.consumers[index]? = some consumer) (consumer' : Consumer) :
    (s.setConsumer index consumer').pending + consumer.holds.toNat =
      s.pending + consumer'.holds.toNat :=
  Slot.countP_set hconsumer consumer' Consumer.holds

theorem pending_append (s : State Item) {consumer : Consumer} (hholds : consumer.holds = false) :
    { s with consumers := s.consumers ++ [consumer] }.pending = s.pending := by
  change (s.consumers ++ [consumer]).countP Consumer.holds = s.consumers.countP Consumer.holds
  rw [List.countP_append, List.countP_singleton, hholds]
  rfl

theorem Balanced.entry {s s' : State Item} (hbalanced : Balanced s) {index : Nat}
    {consumer : Consumer} (hconsumer : s.consumers[index]? = some consumer)
    (h : Entry s index consumer s') : Balanced s' := by
  obtain ⟨hunfinished, hmatched, hclean⟩ := hbalanced
  cases h with
  | none consumer' hbefore hafter =>
      have hpending := pending_setConsumer hconsumer consumer'
      rw [hbefore, hafter] at hpending
      refine ⟨?_, ?_, hclean⟩
      · change s.unfinishedTasks = s.queue.length + _
        omega
      · change s.gets = s.dones + _
        omega
  | get item rest consumer' hqueue hbefore hafter =>
      have hpending := pending_setConsumer (s := { s with queue := rest, gets := s.gets + 1 })
        hconsumer consumer'
      rw [hbefore, hafter] at hpending
      change _ = s.pending + 1 at hpending
      rw [hqueue, List.length_cons] at hunfinished
      refine ⟨?_, ?_, hclean⟩
      · change s.unfinishedTasks = rest.length + _
        rw [Bool.toNat_false] at hpending
        omega
      · change s.gets + 1 = s.dones + _
        rw [Bool.toNat_false] at hpending
        omega
  | taskDone hholds =>
      -- the item that is held is one of the unfinished ones
      have hheld : 0 < s.pending := by
        apply List.countP_pos_iff.mpr
        exact ⟨consumer, List.mem_of_getElem? hconsumer, hholds⟩
      unfold State.taskDone
      split
      · next hzero => omega
      · next unfinished hsucc =>
          have hpending := pending_setConsumer
            (s := { s with dones := s.dones + 1, unfinishedTasks := unfinished })
            hconsumer { consumer with position := .building }
          rw [hholds] at hpending
          change _ = s.pending + 0 at hpending
          rw [Bool.toNat_true] at hpending
          refine ⟨?_, ?_, hclean⟩
          · change unfinished = s.queue.length + _
            omega
          · change s.gets = s.dones + 1 + _
            omega

theorem Balanced.put {s : State Item} (hbalanced : Balanced s) (maxsize : Nat) (item : Item) :
    Balanced (s.put maxsize item) := by
  unfold State.put
  split
  · next queue hput =>
      have hqueue : queue = s.queue ++ [item] := by
        unfold Queue.put at hput
        split at hput
        · cases hput
        · exact (Option.some.inj hput).symm
      refine ⟨?_, hbalanced.matched, hbalanced.clean⟩
      have hunfinished := hbalanced.unfinished
      change s.unfinishedTasks + 1 = queue.length + s.pending
      rw [hqueue, List.length_append, List.length_singleton]
      omega
  · exact hbalanced

theorem Balanced.append {s : State Item} (hbalanced : Balanced s) {consumer : Consumer}
    (hholds : consumer.holds = false) :
    Balanced { s with consumers := s.consumers ++ [consumer] } := by
  have hpending := pending_append s hholds
  refine ⟨?_, ?_, hbalanced.clean⟩
  · rw [hpending]
    exact hbalanced.unfinished
  · rw [hpending]
    exact hbalanced.matched

theorem Balanced.step {generator : Option Generator} {maxsize : Nat} {s s' : State Item}
    {action : Action Item} (hbalanced : Balanced s) (hstep : Step generator maxsize s action s') :
    Balanced s' := by
  unfold Step Accounting.step at hstep
  cases action with
  | put item =>
      obtain rfl := Option.some.inj hstep
      exact hbalanced.put maxsize item
  | report ready =>
      cases generator with
      | none =>
          obtain rfl := Option.some.inj hstep
          exact hbalanced
      | some generator =>
          simp only at hstep
          split at hstep
          · obtain rfl := Option.some.inj hstep
            exact hbalanced
          · obtain rfl := Option.some.inj hstep
            exact hbalanced.append rfl
  | abandon =>
      obtain rfl := Option.some.inj hstep
      exact hbalanced.append rfl
  | consumer index choice =>
      simp only at hstep
      split at hstep
      · cases hstep
      · next consumer hconsumer => exact hbalanced.entry hconsumer (entry_of_consume hstep)

/-- In every run over a queue of either agent: the unfinished tasks are the items queued and those taken
whose `task_done` has not run; `task_done` is not called more often than `get` has returned and never
raises; and `join` returns at once when the queue is empty and no such item is left. -/
theorem queue_accounts_balance (async : Bool) (protocol : Protocol) (kind : ItemKind) (maxsize : Nat)
    {actions : List (Action Item)} {s : State Item}
    (hrun : Run (Step (if async then protocol.asyncGenerator kind else protocol.generator kind) maxsize)
      State.init actions s) :
    s.unfinishedTasks = s.queue.length + s.pending ∧ s.gets = s.dones + s.pending ∧
    s.valueErrors = 0 ∧ (s.queue = [] → s.pending = 0 → s.join = some s) := by
  have hbalanced : Balanced s := by
    apply hrun.invariant (I := Balanced)
    · intro state action next hbalanced hstep
      exact hbalanced.step hstep
    · exact ⟨rfl, rfl, rfl⟩
  refine ⟨hbalanced.unfinished, hbalanced.matched, hbalanced.clean, ?_⟩
  intro hqueue hpending
  have hunfinished := hbalanced.unfinished
  rw [hqueue, hpending] at hunfinished
  exact if_pos hunfinished

/-- A gRPC batch whose stream breaks at the first yield, a second generator of which the transport holds
an item, and the abandon loop that takes what is left. -/
def brokenBatch : List (Action Nat) :=
  [.put 0, .put 1, .put 2, .report true, .consumer 0 .proceed, .report true, .consumer 1 .proceed,
    .consumer 0 .proceed, .consumer 0 .proceed, .consumer 0 .close, .abandon, .consumer 2 .proceed,
    .consumer 2 .proceed, .consumer 2 .proceed, .consumer 2 .proceed]

theorem brokenBatch_balances : ∃ s : State Nat,
    Run (Step (Protocol.grpc.generator .segment) 0) State.init brokenBatch s ∧
    s.queue = [] ∧ s.pending = 1 ∧ s.gets = 3 ∧ s.dones = 2 ∧
    s.unfinishedTasks = s.queue.length + s.pending := by
  have hresult : ∃ s : State Nat,
      Run (Step (Protocol.grpc.generator .segment) 0) State.init brokenBatch s ∧
      s.queue = [] ∧ s.pending = 1 ∧ s.gets = 3 ∧ s.dones = 2 := by
    apply Run.exists_of_foldlM
    decide +kernel
  obtain ⟨s, hreached, hqueue, hpending, hgets, hdones⟩ := hresult
  obtain ⟨hunfinished, -⟩ := queue_accounts_balance false .grpc .segment 0 hreached
  exact ⟨s, hreached, hqueue, hpending, hgets, hdones, hunfinished⟩

end SkyWalking.Accounting
