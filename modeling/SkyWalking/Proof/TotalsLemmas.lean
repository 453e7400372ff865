import SkyWalking.Meter.Totals
import SkyWalking.Proof.MeterLemmas

/-!
# Nothing that was counted is lost

A message of a counter of rates takes what was added since the last one. The invariant says so of the two
numbers that the counter keeps; only the worker and additions touch them.
-/

namespace SkyWalking

namespace Meter

variable {α : Type} [LinearOrder α]

theorem kind_build (name : String) (kind : MeterKind α) (tags added : List (String × String)) :
    (build name kind tags added).kind = kind := by
  unfold build
  rw [foldl_tag]
  rfl

/-- Only histograms take values. -/
theorem kind_addValue {m : Meter α} {value : α} {mode : CounterMode} {count previous : α}
    (h : (m.addValue value).kind = .counter mode count previous) : m.kind = (m.addValue value).kind := by
  cases hkind : m.kind with
  | histogram histogram =>
      simp only [addValue, hkind] at h
      cases h
  | counter _ _ _ | gauge _ _ => simp only [addValue, hkind]

end Meter

namespace MeterService

variable {α : Type} [LinearOrder α] [AddCommGroup α] {s s' : State α} {actions : List (Action α)}
  {action : Action α} {number : Nat}

theorem foldl_tally_snoc :
    (actions ++ [action]).foldl (tally number) (0, (0 : α)) =
      tally number (actions.foldl (tally number) (0, 0)) action := by
  rw [List.foldl_append, List.foldl_cons, List.foldl_nil]

theorem counted_snoc :
    counted (actions ++ [action]) number = (tally number (actions.foldl (tally number) (0, 0)) action).2 := by
  rw [counted, foldl_tally_snoc]

/-- What the two numbers of a counter stand for, when these values were archived for it. -/
structure Tallied (actions : List (Action α)) (number : Nat) (values : List α) (kind : MeterKind α) :
    Prop where
  count : ∀ mode count previous, kind = .counter mode count previous → count = counted actions number
  rate : ∀ count previous, kind = .counter .rate count previous → values.sum = previous
  increment : ∀ count previous, kind = .counter .increment count previous → ∀ value ∈ values,
    ∃ before, before <+: actions ∧ value = counted before number

structure Balanced (actions : List (Action α)) (s : State α) : Prop where
  built : ∀ number, (actions.foldl (tally number) (0, (0 : α))).1 = s.meters.length
  walk : ∀ walk, s.walk = some walk → walk.round < s.rounds.length
  pending : ∀ entry ∈ s.pending, entry.1 < s.rounds.length
  archived : ∀ entry ∈ s.archived, entry.1 < s.meters.length
  tallied : ∀ number meter, s.meters[number]? = some meter →
    Tallied actions number (s.valuesOf number) meter.kind
  /-- Nothing is added to a meter that is not there. -/
  uncounted : ∀ number, s.meters.length ≤ number → counted actions number = 0

theorem Balanced.init : Balanced [] (State.init : State α) where
  built _ := rfl
  walk _ h := by cases h
  pending _ h := by cases h
  archived _ h := by cases h
  tallied _ _ h := by simp [State.init] at h
  uncounted _ _ := rfl

namespace Tallied

variable {values values' : List α} {kind kind' : MeterKind α}

/-- Actions that do not touch the counter. -/
theorem later (h : Tallied actions number values kind)
    (hcounted : counted (actions ++ [action]) number = counted actions number)
    (hperm : values'.Perm values)
    (hkind : ∀ mode count previous, kind' = .counter mode count previous → kind = kind') :
    Tallied (actions ++ [action]) number values' kind' where
  count mode count previous heq := by
    rw [hcounted]
    exact h.count mode count previous ((hkind mode count previous heq).trans heq)
  rate count previous heq := by
    rw [hperm.sum_eq]
    exact h.rate count previous ((hkind _ count previous heq).trans heq)
  increment count previous heq value hvalue := by
    have hold := (hkind _ count previous heq).trans heq
    obtain ⟨before, hbefore, htotal⟩ := h.increment count previous hold value (hperm.mem_iff.mp hvalue)
    exact ⟨before, hbefore.trans (List.prefix_append _ _), htotal⟩

theorem add {mode : CounterMode} {count previous value : α}
    (h : Tallied actions number values (.counter mode count previous))
    (hcounted : counted (actions ++ [action]) number = counted actions number + value) :
    Tallied (actions ++ [action]) number values (.counter mode (count + value) previous) where
  count mode' count' previous' heq := by
    injection heq with hmode hcount hprevious
    rw [hcounted, ← hcount, h.count mode count previous rfl]
  rate count' previous' heq := by
    injection heq with hmode hcount hprevious
    subst hmode
    rw [← hprevious]
    exact h.rate count previous rfl
  increment count' previous' heq value' hvalue := by
    injection heq with hmode hcount hprevious
    subst hmode
    obtain ⟨before, hbefore, htotal⟩ := h.increment count previous rfl value' hvalue
    exact ⟨before, hbefore.trans (List.prefix_append _ _), htotal⟩

end Tallied

theorem Tallied.of_ne {values : List α} {kind : MeterKind α}
    (hne : ∀ mode count previous, kind ≠ .counter mode count previous) :
    Tallied actions number values kind where
  count mode count previous heq := absurd heq (hne mode count previous)
  rate count previous heq := absurd heq (hne _ count previous)
  increment count previous heq := absurd heq (hne _ count previous)

/-- The message of a counter. -/
theorem Tallied.transform {values values' : List α} {meter : Meter α}
    (h : Tallied actions number values meter.kind)
    (hcounted : counted (actions ++ [action]) number = counted actions number)
    (hperm : values'.Perm (values ++ meter.transform.1.value?.toList)) :
    Tallied (actions ++ [action]) number values' meter.transform.2.kind := by
  cases hkind : meter.kind with
  | counter mode count previous =>
      rw [hkind] at h
      have hcount := h.count mode count previous rfl
      cases mode with
      | rate =>
          have hvalue : meter.transform.1.value? = some (count - previous) := by
            rw [Meter.transform, hkind]
            rfl
          have hafter : meter.transform.2.kind = .counter .rate count count := by
            rw [Meter.transform, hkind]
            rfl
          rw [hvalue] at hperm
          rw [hafter]
          exact
            { count := fun _ _ _ heq => by
                injection heq with _ hcount' _
                rw [hcounted, ← hcount', hcount]
              rate := fun _ _ heq => by
                injection heq with _ _ hprevious
                rw [hperm.sum_eq, List.sum_append, h.rate count previous rfl, ← hprevious]
                simp
              increment := fun _ _ heq => by injection heq with hmode; cases hmode }
      | increment =>
          have hvalue : meter.transform.1.value? = some count := by
            rw [Meter.transform, hkind]
            rfl
          have hafter : meter.transform.2.kind = .counter .increment count previous := by
            rw [Meter.transform, hkind]
            rfl
          rw [hvalue] at hperm
          rw [hafter]
          exact
            { count := fun _ _ _ heq => by
                injection heq with _ hcount' _
                rw [hcounted, ← hcount', hcount]
              rate := fun _ _ heq => by injection heq with hmode; cases hmode
              increment := fun _ _ _ value hmem => by
                obtain hold | hnew := List.mem_append.mp (hperm.mem_iff.mp hmem)
                · obtain ⟨before, hbefore, htotal⟩ := h.increment count previous rfl value hold
                  exact ⟨before, hbefore.trans (List.prefix_append _ _), htotal⟩
                · obtain rfl := List.mem_singleton.mp hnew
                  exact ⟨actions, List.prefix_append _ _, hcount⟩ }
  | gauge generator drawn =>
      refine of_ne fun mode count previous => ?_
      simp only [Meter.transform, hkind, Meter.MeterKind.transform]
      split <;> simp
  | histogram histogram =>
      refine of_ne fun mode count previous => ?_
      simp [Meter.transform, hkind, Meter.MeterKind.transform]

namespace Balanced

variable (h : Balanced actions s)

include h

theorem valuesOf_eq_nil (hnumber : s.meters.length ≤ number) : s.valuesOf number = [] := by
  rw [State.valuesOf, List.filterMap_eq_nil_iff]
  intro entry hentry
  exact if_neg ((h.archived entry hentry).trans_le hnumber).ne

/-- Actions that build nothing and leave the rounds alone. -/
theorem same (meters : List (Meter α)) (hlength : meters.length = s.meters.length)
    (hbuilt : ∀ number, (tally number (actions.foldl (tally number) (0, (0 : α))) action).1 = s.meters.length)
    (htallied : ∀ number meter, meters[number]? = some meter →
      Tallied (actions ++ [action]) number (s.valuesOf number) meter.kind)
    (huncounted : ∀ number, s.meters.length ≤ number →
      counted (actions ++ [action]) number = counted actions number) :
    Balanced (actions ++ [action]) { s with meters := meters } where
  built number := by
    rw [foldl_tally_snoc, hbuilt]
    exact hlength.symm
  walk := h.walk
  pending := h.pending
  archived entry hentry := (h.archived entry hentry).trans_eq hlength.symm
  tallied := htallied
  uncounted number hnumber := by
    have hge := hlength.symm.trans_le hnumber
    exact (huncounted number hge).trans (h.uncounted number hge)

theorem build {meter : Meter α} (hnew : meter.kind.IsNew) {name : String} {kind : MeterKind α}
    {tags added : List (String × String)} :
    Balanced (actions ++ [.build name kind tags added]) (s.register meter) := by
  have hcounted : ∀ number, counted (actions ++ [.build name kind tags added]) number =
      counted actions number := fun number => counted_snoc
  refine
    { built := fun number => ?_
      walk := h.walk
      pending := h.pending
      archived := fun entry hentry => ?_
      tallied := fun number other hother => ?_
      uncounted := fun number hnumber => ?_ }
  · rw [foldl_tally_snoc, tally, h.built]
    simp [State.register]
  · exact (h.archived entry hentry).trans_le (by simp [State.register])
  · obtain hlt | hge := Nat.lt_or_ge number s.meters.length
    · rw [State.register, List.getElem?_append_left hlt] at hother
      exact (h.tallied number other hother).later (hcounted number) (List.Perm.refl _) fun _ _ _ _ => rfl
    · rw [State.register, List.getElem?_append_right hge] at hother
      obtain rfl := List.mem_singleton.mp (List.mem_of_getElem? hother)
      rw [show (s.register other).valuesOf number = s.valuesOf number from rfl, h.valuesOf_eq_nil hge]
      cases hkind : other.kind with
      | counter mode count previous =>
          rw [hkind] at hnew
          exact
            { count := fun _ _ _ heq => by
                injection heq with _ hcount _
                rw [hcounted, h.uncounted number hge, ← hcount]
                exact hnew.1
              rate := fun _ _ heq => by
                injection heq with _ _ hprevious
                exact (hprevious.symm.trans hnew.2).symm
              increment := fun _ _ _ value hvalue => by cases hvalue }
      | gauge generator drawn => exact .of_ne fun _ _ _ heq => by cases heq
      | histogram histogram => exact .of_ne fun _ _ _ heq => by cases heq
  · rw [hcounted]
    refine h.uncounted number (Nat.le_of_succ_le ?_)
    simpa [State.register] using hnumber

theorem increment (meter : Nat) (value : α) :
    Balanced (actions ++ [.increment meter value])
      { s with meters := s.meters.modify meter (·.increment value) } := by
  have hcounted : ∀ number, counted (actions ++ [.increment meter value]) number =
      if meter = number ∧ number < s.meters.length then counted actions number + value
      else counted actions number := by
    intro number
    rw [counted_snoc, tally, h.built]
    split <;> rfl
  refine h.same _ (List.length_modify ..) (fun number => ?_) (fun number other hother => ?_) fun number hnumber => ?_
  · rw [tally]
    split <;> exact h.built number
  · rw [List.getElem?_modify] at hother
    obtain ⟨before, hbefore, rfl⟩ := Option.map_eq_some_iff.mp hother
    have hlt := (List.getElem?_eq_some_iff.mp hbefore).1
    have htallied := h.tallied number before hbefore
    by_cases heq : meter = number
    · rw [if_pos heq]
      cases hkind : before.kind with
      | counter mode count previous =>
          rw [hkind] at htallied
          simp only [Meter.increment, hkind]
          refine htallied.add ?_
          rw [hcounted, if_pos ⟨heq, hlt⟩]
      | gauge generator drawn =>
          refine .of_ne fun _ _ _ hother => ?_
          simp [Meter.increment, hkind] at hother
      | histogram histogram =>
          refine .of_ne fun _ _ _ hother => ?_
          simp [Meter.increment, hkind] at hother
    · rw [if_neg heq]
      refine htallied.later ?_ (List.Perm.refl _) fun _ _ _ _ => rfl
      rw [hcounted, if_neg fun hboth => heq hboth.1]
  · rw [hcounted, if_neg fun hboth => absurd hboth.2 (Nat.not_lt.mpr hnumber)]

theorem addValue (meter : Nat) (value : α) :
    Balanced (actions ++ [.addValue meter value])
      { s with meters := s.meters.modify meter (·.addValue value) } := by
  have hcounted : ∀ number, counted (actions ++ [.addValue meter value]) number = counted actions number :=
    fun number => counted_snoc
  refine h.same _ (List.length_modify ..) h.built (fun number other hother => ?_) fun number _ => hcounted number
  rw [List.getElem?_modify] at hother
  obtain ⟨before, hbefore, rfl⟩ := Option.map_eq_some_iff.mp hother
  refine (h.tallied number before hbefore).later (hcounted number) (List.Perm.refl _) fun _ _ _ hkind => ?_
  split at hkind
  · next heq =>
    rw [if_pos heq]
    exact Meter.kind_addValue hkind
  · next heq => rw [if_neg heq]

/-- Actions that leave the meters and what is archived alone. -/
theorem idle (htally : ∀ number acc, tally number acc action = acc) (hmeters : s'.meters = s.meters)
    (harchived : s'.archived = s.archived) (hwalk : ∀ walk, s'.walk = some walk → walk.round < s'.rounds.length)
    (hpending : ∀ entry ∈ s'.pending, entry.1 < s'.rounds.length) :
    Balanced (actions ++ [action]) s' := by
  have hcounted : ∀ number, counted (actions ++ [action]) number = counted actions number := by
    intro number
    rw [counted_snoc, htally]
    rfl
  have hvalues : ∀ number, s'.valuesOf number = s.valuesOf number := by
    intro number
    rw [State.valuesOf, harchived]
    rfl
  refine
    { built := fun number => ?_
      walk := hwalk
      pending := hpending
      archived := ?_
      tallied := fun number meter hmeter => ?_
      uncounted := fun number hnumber => ?_ }
  · rw [foldl_tally_snoc, htally, hmeters]
    exact h.built number
  · rw [harchived, hmeters]
    exact h.archived
  · rw [hmeters] at hmeter
    rw [hvalues]
    exact (h.tallied number meter hmeter).later (hcounted number) (List.Perm.refl _) fun _ _ _ _ => rfl
  · rw [hmeters] at hnumber
    exact (hcounted number).trans (h.uncounted number hnumber)

theorem send : Balanced (actions ++ [.send]) { s with
    rounds := s.rounds ++ [{ built := s.meters.length }]
    walk := some { round := s.rounds.length, size := s.meterMap.length } } := by
  refine h.idle (fun _ _ => rfl) rfl ?_ (fun walk hwalk => ?_) fun entry hentry => ?_
  · simp [State.archived]
  · obtain rfl := Option.some.inj hwalk
    simp
  · exact (h.pending entry hentry).trans_le (by simp)

theorem submit (hstep : s.submit = some s') : Balanced (actions ++ [.submit]) s' := by
  unfold State.submit at hstep
  split at hstep
  · cases hstep
  · next walk hwalk =>
    have hround := h.walk walk hwalk
    split at hstep
    · obtain rfl := Option.some.inj hstep
      exact h.idle (fun _ _ => rfl) rfl rfl (fun _ hnone => by cases hnone) h.pending
    · split at hstep
      · obtain rfl := Option.some.inj hstep
        exact h.idle (fun _ _ => rfl) rfl rfl (fun _ hnone => by cases hnone) h.pending
      · obtain rfl := Option.some.inj hstep
        refine h.idle (fun _ _ => rfl) rfl rfl (fun walk' hwalk' => ?_) fun entry hentry => ?_
        · obtain rfl := Option.some.inj hwalk'
          exact hround
        · obtain hold | hnew := List.mem_append.mp hentry
          · exact h.pending entry hold
          · obtain rfl := List.mem_singleton.mp hnew
            exact hround

end Balanced

omit [LinearOrder α] [AddCommGroup α] in
/-- A message that is added to one of the rounds. -/
theorem archived_modify_perm {rounds : List (Round α)} {round : Nat} (hround : round < rounds.length)
    (entry : Nat × MeterData α) :
    ((rounds.modify round fun r => { r with archived := r.archived ++ [entry] }).flatMap (·.archived)).Perm
      (rounds.flatMap (·.archived) ++ [entry]) := by
  induction rounds generalizing round with
  | nil => cases hround
  | cons first rest ih =>
      cases round with
      | zero =>
          simp only [List.modify_zero_cons, List.flatMap_cons, List.append_assoc]
          exact List.perm_append_comm.append_left _
      | succ round =>
          simp only [List.modify_succ_cons, List.flatMap_cons, List.append_assoc]
          exact (ih (Nat.lt_of_succ_lt_succ hround)).append_left _

theorem Balanced.archive (h : Balanced actions s) {agentName agentInstanceName : String}
    {currentMilliTime : Int} (hstep : s.archive agentName agentInstanceName currentMilliTime = some s') :
    Balanced (actions ++ [.archive currentMilliTime]) s' := by
  unfold State.archive at hstep
  split at hstep
  · cases hstep
  · next round number rest hpending =>
    have hround : round < s.rounds.length := h.pending (round, number) (by simp [hpending])
    split at hstep
    · cases hstep
    · next meter hmeter =>
      have hnumber := (List.getElem?_eq_some_iff.mp hmeter).1
      have hcounted : ∀ other, counted (actions ++ [.archive currentMilliTime]) other = counted actions other :=
        fun _ => counted_snoc
      obtain rfl := Option.some.inj hstep
      have hperm := archived_modify_perm hround
        (number, (⟨meter.transform.1, agentName, agentInstanceName, currentMilliTime⟩ : MeterData α))
      refine
        { built := fun other => ?_
          walk := fun walk hwalk => ?_
          pending := fun entry hentry => ?_
          archived := fun entry hentry => ?_
          tallied := fun other meter' hmeter' => ?_
          uncounted := fun other hother => ?_ }
      · rw [foldl_tally_snoc, List.length_set]
        exact h.built other
      · rw [List.length_modify]
        exact h.walk walk hwalk
      · rw [List.length_modify]
        exact h.pending entry (by rw [hpending]; exact List.mem_cons_of_mem _ hentry)
      · rw [List.length_set]
        obtain hold | hnew := List.mem_append.mp (hperm.mem_iff.mp hentry)
        · exact h.archived entry hold
        · obtain rfl := List.mem_singleton.mp hnew
          exact hnumber
      · have hvalues := hperm.filterMap fun entry =>
          if entry.1 = other then entry.2.metric.value? else none
        rw [List.filterMap_append] at hvalues
        rw [List.getElem?_set] at hmeter'
        by_cases heq : number = other
        · subst heq
          rw [if_pos rfl, if_pos hnumber] at hmeter'
          obtain rfl := Option.some.inj hmeter'
          have hlast : List.filterMap (fun entry : Nat × MeterData α =>
                if entry.1 = number then entry.2.metric.value? else none)
              [(number, ⟨meter.transform.1, agentName, agentInstanceName, currentMilliTime⟩)] =
                meter.transform.1.value?.toList := by
            cases hvalue : meter.transform.1.value? <;> simp [hvalue]
          rw [hlast] at hvalues
          exact (h.tallied number meter hmeter).transform (hcounted number) hvalues
        · rw [if_neg heq] at hmeter'
          refine (h.tallied other meter' hmeter').later (hcounted other) (hvalues.trans ?_) fun _ _ _ _ => rfl
          simp [State.valuesOf, State.archived, heq]
      · rw [List.length_set] at hother
        exact (hcounted other).trans (h.uncounted other hother)

theorem Balanced.step (h : Balanced actions s) {mode : Mode} {agentName agentInstanceName : String}
    (hconstructed : Constructed s action)
    (hstep : MeterService.step mode agentName agentInstanceName s action = some s') :
    Balanced (actions ++ [action]) s' := by
  cases action with
  | build name kind tags added =>
      obtain rfl := Option.some.inj hstep
      apply h.build
      rw [Meter.kind_build]
      exact hconstructed
  | increment meter value =>
      obtain rfl := Option.some.inj hstep
      exact h.increment meter value
  | addValue meter value =>
      obtain rfl := Option.some.inj hstep
      exact h.addValue meter value
  | send =>
      simp only [MeterService.step, Option.ite_none_right_eq_some] at hstep
      obtain ⟨-, heq⟩ := hstep
      obtain rfl := Option.some.inj heq
      exact h.send
  | submit => exact h.submit hstep
  | archive currentMilliTime =>
      simp only [MeterService.step, Option.ite_none_right_eq_some] at hstep
      exact h.archive hstep.2

theorem Balanced.conserved (h : Balanced actions s) (number : Nat) : Conserved actions s number where
  rate meter hmeter count previous hkind next hnext := by
    have htallied := h.tallied number meter hmeter
    have hvalue : meter.transform.1.value? = some (count - previous) := by
      rw [Meter.transform, hkind]
      rfl
    obtain rfl := Option.some.inj (hvalue.symm.trans hnext)
    calc (s.valuesOf number).sum + (count - previous) = previous + (count - previous) := by
          rw [htallied.rate count previous hkind]
      _ = count := add_sub_cancel _ _
      _ = counted actions number := htallied.count _ count previous hkind
  increment meter hmeter count previous hkind :=
    (h.tallied number meter hmeter).increment count previous hkind

end MeterService

end SkyWalking
