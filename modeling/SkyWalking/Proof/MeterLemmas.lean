import SkyWalking.Meter.Service

/-!
# Meters that get lost

Under distinct names the map is the list of all meters, in the order in which they were built, and a round
hands over the next one of them at every step.
-/

namespace SkyWalking

namespace Meter

variable {α : Type} [LinearOrder α]

theorem foldl_tag (added : List (String × String)) : ∀ m : Meter α,
    added.foldl (fun m pair => m.tag pair.1 pair.2) m =
      { m with
        meterId := { m.meterId with
          tags := m.meterId.tags ++ added.map fun tag => ⟨tag.1, tag.2⟩ } } := by
  induction added with
  | nil => simp
  | cons pair rest ih =>
      intro m
      rw [List.foldl_cons, ih]
      simp [tag]

section Build

variable (name : String) (kind : MeterKind α) (tags added : List (String × String))

/-- Sorting keeps the tags. -/
theorem tags_build_perm :
    (build name kind tags added).meterId.tags.Perm
      ((tags ++ added).map fun tag => ⟨tag.1, tag.2⟩) := by
  unfold build sortTags
  rw [foldl_tag, List.map_append]
  exact List.perm_insertionSort _ _

theorem getName_build : (build name kind tags added).getName = name := by
  unfold build
  rw [foldl_tag]
  rfl

theorem labels_build : (build name kind tags added).meterId.labels = none := by
  unfold build
  rw [foldl_tag]
  rfl

end Build

/-- What is the same in every message of a meter. -/
structure Same (m m' : Meter α) : Prop where
  name : m'.getName = m.getName
  tags : m'.meterId.tagLabels = m.meterId.tagLabels
  labels : m'.meterId.transformTags = m.meterId.transformTags

theorem same_addValue (value : α) (m : Meter α) : Same m (m.addValue value) := by
  unfold addValue
  split <;> exact ⟨rfl, rfl, rfl⟩

theorem same_increment [Add α] (value : α) (m : Meter α) : Same m (m.increment value) := by
  unfold increment
  split <;> exact ⟨rfl, rfl, rfl⟩

section Transform

variable [Zero α] [Sub α] (m : Meter α)

theorem same_transform : Same m m.transform.2 := ⟨rfl, rfl, rfl⟩

theorem name_transform : m.transform.1.name = m.getName := by
  unfold transform
  simp only
  split <;> rfl

theorem labels_transform : m.transform.1.labels = m.meterId.transformTags := by
  unfold transform
  simp only
  split <;> rfl

end Transform

end Meter

namespace MeterService

variable {α : Type} [LinearOrder α] {s s' : State α}

/-- What the worker still has to do for a round. -/
def State.pendingOf (s : State α) (round : Nat) : List Nat :=
  (s.pending.filter fun entry => decide (entry.1 = round)).map Prod.snd

/-- How many meters a round has handed over. -/
def State.submitted (s : State α) (index : Nat) (round : Round α) : Nat :=
  match s.walk with
  | some walk => if walk.round = index then walk.position else round.built
  | none => round.built

/-- The messages of a round so far are of its first meters, in order. -/
structure Sound (s : State α) : Prop where
  alive : s.ended = false
  names : s.meterMap.map Prod.fst = s.meters.map Meter.getName
  numbers : s.meterMap.map Prod.snd = List.range s.meters.length
  labels : ∀ meter ∈ s.meters, meter.meterId.transformTags = meter.meterId.tagLabels
  walk : ∀ walk, s.walk = some walk → walk.size = s.meterMap.length ∧ walk.position ≤ walk.size ∧
    ∃ round, s.rounds[walk.round]? = some round ∧ round.built = s.meters.length
  pending : ∀ entry ∈ s.pending, entry.1 < s.rounds.length
  order : ∀ index round, s.rounds[index]? = some round →
    round.archived.map Prod.fst ++ s.pendingOf index = List.range (s.submitted index round)
  own : ∀ (index : Nat) (round : Round α), s.rounds[index]? = some round → ∀ entry ∈ round.archived,
    ∃ meter, s.meters[entry.1]? = some meter ∧
      entry.2.metric.name = meter.getName ∧ entry.2.metric.labels = meter.meterId.tagLabels

theorem Sound.init : Sound (State.init : State α) := by
  refine ⟨rfl, rfl, rfl, fun _ h => (by cases h), fun _ h => (by cases h), fun _ h => (by cases h), ?_, ?_⟩
  · intro index round h
    simp [State.init] at h
  · intro index round h
    simp [State.init] at h

theorem Sound.length (h : Sound s) : s.meterMap.length = s.meters.length := by
  have hnames := congrArg List.length h.names
  simpa using hnames

/-- The meters may change, but not in what their messages share. -/
theorem Sound.modify (h : Sound s) (number : Nat) {f : Meter α → Meter α}
    (hf : ∀ meter, Meter.Same meter (f meter)) :
    Sound { s with meters := s.meters.modify number f } := by
  have hmap : ∀ {β : Type} (g : Meter α → β), (∀ meter, g (f meter) = g meter) →
      (s.meters.modify number f).map g = s.meters.map g := by
    intro β g hg
    refine List.ext_getElem? fun i => ?_
    rw [List.getElem?_map, List.getElem?_map, List.getElem?_modify]
    cases s.meters[i]? with
    | none => rfl
    | some meter =>
        simp only [Option.map_eq_map, Option.map_some]
        split
        · rw [hg]
        · rfl
  have hlength : (s.meters.modify number f).length = s.meters.length := List.length_modify ..
  refine ⟨h.alive, ?_, ?_, ?_, ?_, h.pending, h.order, ?_⟩
  · rw [hmap _ fun meter => (hf meter).name]
    exact h.names
  · rw [hlength]
    exact h.numbers
  · intro meter hmeter
    obtain ⟨i, hi⟩ := List.mem_iff_getElem?.mp hmeter
    rw [List.getElem?_modify] at hi
    obtain ⟨before, hbefore, rfl⟩ := Option.map_eq_some_iff.mp hi
    have hlabels := h.labels before (List.mem_of_getElem? hbefore)
    split
    · rw [(hf before).labels, (hf before).tags]
      exact hlabels
    · exact hlabels
  · rw [hlength]
    exact h.walk
  · intro index round hround entry hentry
    obtain ⟨meter, hmeter, hname, htags⟩ := h.own index round hround entry hentry
    rw [List.getElem?_modify, hmeter]
    refine ⟨_, rfl, ?_⟩
    split
    · rw [(hf meter).name, (hf meter).tags]
      exact ⟨hname, htags⟩
    · exact ⟨hname, htags⟩

/-- A meter with a new name is added at the end. -/
theorem Sound.register (h : Sound s) {meter : Meter α} (hname : meter.getName ∉ s.meters.map Meter.getName)
    (hwalk : s.walk = none) (hlabels : meter.meterId.labels = none) : Sound (s.register meter) := by
  have hassign : assign s.meterMap meter.getName s.meters.length =
      s.meterMap ++ [(meter.getName, s.meters.length)] := by
    unfold assign
    rw [h.names, if_neg hname]
  refine ⟨h.alive, ?_, ?_, ?_, ?_, h.pending, h.order, ?_⟩
  · simp only [State.register, hassign, List.map_append, h.names, List.map_singleton]
  · simp only [State.register, hassign, List.map_append, h.numbers, List.map_singleton,
      List.length_append, List.length_singleton, List.range_succ]
  · intro other hother
    obtain hold | hnew := List.mem_append.mp hother
    · exact h.labels other hold
    · obtain rfl := List.mem_singleton.mp hnew
      rw [MeterId.transformTags, hlabels]
      rfl
  · intro walk hat
    rw [State.register, hwalk] at hat
    cases hat
  · intro index round hround entry hentry
    obtain ⟨old, hold, hfacts⟩ := h.own index round hround entry hentry
    refine ⟨old, ?_, hfacts⟩
    exact List.getElem?_append_left (List.getElem?_eq_some_iff.mp hold).1 ▸ hold

theorem Sound.send (h : Sound s) (hwalk : s.walk = none) :
    Sound { s with
      rounds := s.rounds ++ [{ built := s.meters.length }]
      walk := some { round := s.rounds.length, size := s.meterMap.length } } := by
  have hround : ∀ (index : Nat) (round : Round α),
      (s.rounds ++ [{ built := s.meters.length }])[index]? = some round →
        (index = s.rounds.length ∧ round = { built := s.meters.length }) ∨
          index ≠ s.rounds.length ∧ s.rounds[index]? = some round := by
    intro index round hat
    by_cases heq : index = s.rounds.length
    · subst heq
      rw [List.getElem?_concat_length] at hat
      exact .inl ⟨rfl, (Option.some.inj hat).symm⟩
    · have hlt := (List.getElem?_eq_some_iff.mp hat).1
      rw [List.length_append, List.length_singleton] at hlt
      rw [List.getElem?_append_left (by omega)] at hat
      exact .inr ⟨heq, hat⟩
  refine ⟨h.alive, h.names, h.numbers, h.labels, ?_, ?_, ?_, ?_⟩
  · intro walk hat
    obtain rfl := Option.some.inj hat
    exact ⟨rfl, Nat.zero_le _, _, List.getElem?_concat_length, rfl⟩
  · intro entry hentry
    have hbound := h.pending entry hentry
    simp only [List.length_append, List.length_singleton]
    omega
  · intro index round hat
    obtain ⟨rfl, rfl⟩ | ⟨hne, hold⟩ := hround index round hat
    · have hnone : s.pendingOf s.rounds.length = [] := by
        unfold State.pendingOf
        rw [List.map_eq_nil_iff, List.filter_eq_nil_iff]
        intro entry hentry
        simpa using (h.pending entry hentry).ne
      simp only [State.submitted, if_true, List.map_nil, List.nil_append, List.range_zero]
      exact hnone
    · have horder := h.order index round hold
      simp only [State.submitted, hwalk] at horder
      simp only [State.submitted, if_neg hne.symm]
      exact horder
  · intro index round hat
    obtain ⟨rfl, rfl⟩ | ⟨-, hold⟩ := hround index round hat
    · exact fun entry hentry => by cases hentry
    · exact h.own index round hold

theorem Sound.submit (h : Sound s) (hstep : s.submit = some s') : Sound s' := by
  unfold State.submit at hstep
  cases hwalk : s.walk with
  | none => simp [hwalk] at hstep
  | some walk =>
      obtain ⟨hsize, hposition, current, hcurrent, hbuilt⟩ := h.walk walk hwalk
      simp only [hwalk] at hstep
      rw [if_neg (not_not.mpr hsize.symm)] at hstep
      have hlength := h.length
      cases hentry : s.meterMap[walk.position]? with
      | none =>
          simp only [hentry] at hstep
          obtain rfl := Option.some.inj hstep
          have hend := List.getElem?_eq_none_iff.mp hentry
          refine ⟨h.alive, h.names, h.numbers, h.labels, fun _ hat => (by cases hat), h.pending, ?_,
            h.own⟩
          intro index round hround
          have horder := h.order index round hround
          simp only [State.submitted, hwalk] at horder ⊢
          split at horder
          · next heq =>
            subst heq
            obtain rfl := Option.some.inj (hcurrent.symm.trans hround)
            have hall : walk.position = current.built := by omega
            rw [← hall]
            exact horder
          · exact horder
      | some entry =>
          obtain ⟨name, meter⟩ := entry
          simp only [hentry] at hstep
          obtain rfl := Option.some.inj hstep
          have hlt := (List.getElem?_eq_some_iff.mp hentry).1
          have hmeter : meter = walk.position := by
            have hnumber := congrArg (fun numbers => numbers[walk.position]?) h.numbers
            simp only [List.getElem?_map, hentry, Option.map_some] at hnumber
            rw [List.getElem?_range (by omega)] at hnumber
            exact Option.some.inj hnumber
          subst hmeter
          refine ⟨h.alive, h.names, h.numbers, h.labels, ?_, ?_, ?_, h.own⟩
          · intro next hat
            obtain rfl := Option.some.inj hat
            exact ⟨hsize, by simp only; omega, current, hcurrent, hbuilt⟩
          · intro entry hmem
            obtain hold | hnew := List.mem_append.mp hmem
            · exact h.pending entry hold
            · obtain rfl := List.mem_singleton.mp hnew
              exact (List.getElem?_eq_some_iff.mp hcurrent).1
          · intro index round hround
            have horder := h.order index round hround
            simp only [State.submitted, hwalk, State.pendingOf, List.filter_append,
              List.map_append] at horder ⊢
            by_cases heq : walk.round = index
            · rw [if_pos heq] at horder ⊢
              rw [List.range_succ, ← horder, List.append_assoc]
              simp [heq]
            · rw [if_neg heq] at horder ⊢
              simpa [heq] using horder

/-- The worker has archived the message of the first meter that is pending. -/
theorem Sound.log (h : Sound s) {round number : Nat} {rest : List (Nat × Nat)} {data : MeterData α}
    (meter : Meter α) (hpending : s.pending = (round, number) :: rest)
    (hmeter : s.meters[number]? = some meter) (hname : data.metric.name = meter.getName)
    (htags : data.metric.labels = meter.meterId.tagLabels) :
    Sound { s with
      rounds := s.rounds.modify round fun r => { r with archived := r.archived ++ [(number, data)] }
      pending := rest } := by
  have hround : ∀ (index : Nat) (r' : Round α),
      (s.rounds.modify round fun r =>
        { r with archived := r.archived ++ [(number, data)] })[index]? = some r' →
      ∃ r, s.rounds[index]? = some r ∧ r'.built = r.built ∧
        r'.archived = r.archived ++ if round = index then [(number, data)] else [] := by
    intro index r' hat
    rw [List.getElem?_modify] at hat
    obtain ⟨r, hr, rfl⟩ := Option.map_eq_some_iff.mp hat
    refine ⟨r, hr, ?_⟩
    split
    · exact ⟨rfl, rfl⟩
    · exact ⟨rfl, (List.append_nil _).symm⟩
  refine ⟨h.alive, h.names, h.numbers, h.labels, ?_, ?_, ?_, ?_⟩
  · intro walk hwalk
    obtain ⟨hsize, hposition, current, hcurrent, hbuilt⟩ := h.walk walk hwalk
    refine ⟨hsize, hposition, ?_⟩
    simp only [List.getElem?_modify, hcurrent]
    refine ⟨_, rfl, ?_⟩
    split <;> exact hbuilt
  · intro entry hentry
    rw [List.length_modify]
    exact h.pending entry (by rw [hpending]; exact List.mem_cons_of_mem _ hentry)
  · intro index r' hat
    obtain ⟨r, hr, hbuilt, harchived⟩ := hround index r' hat
    have horder := h.order index r hr
    have hsubmitted : State.submitted { s with
        rounds := s.rounds.modify round fun r =>
          { r with archived := r.archived ++ [(number, data)] }
        pending := rest } index r' = s.submitted index r := by
      simp only [State.submitted, hbuilt]
    rw [hsubmitted, ← horder, harchived]
    simp only [State.pendingOf, hpending, List.filter_cons]
    by_cases heq : round = index
    · simp [heq]
    · simp [heq]
  · intro index r' hat entry hentry
    obtain ⟨r, hr, hbuilt, harchived⟩ := hround index r' hat
    rw [harchived] at hentry
    obtain hold | hnew := List.mem_append.mp hentry
    · exact h.own index r hr entry hold
    · split at hnew
      · obtain rfl := List.mem_singleton.mp hnew
        exact ⟨meter, hmeter, hname, htags⟩
      · cases hnew

section Archive

variable [Zero α] [Sub α]

theorem Sound.archive (h : Sound s) {agentName agentInstanceName : String} {currentMilliTime : Int}
    (hstep : s.archive agentName agentInstanceName currentMilliTime = some s') : Sound s' := by
  unfold State.archive at hstep
  cases hpending : s.pending with
  | nil => simp [hpending] at hstep
  | cons entry rest =>
      obtain ⟨round, number⟩ := entry
      cases hmeter : s.meters[number]? with
      | none => simp [hpending, hmeter] at hstep
      | some meter =>
          simp only [hpending, hmeter] at hstep
          obtain rfl := Option.some.inj hstep
          have hset : s.meters.set number meter.transform.2 =
              s.meters.modify number fun m => m.transform.2 := by
            refine List.ext_getElem? fun i => ?_
            rw [List.getElem?_set', List.getElem?_modify]
            split
            · next heq =>
              subst heq
              rw [hmeter]
              rfl
            · simp
          rw [hset]
          have hmodified := h.modify number Meter.same_transform
          refine hmodified.log meter.transform.2 hpending ?_ ?_ ?_
          · simp [hmeter]
          · exact meter.name_transform
          · exact meter.labels_transform.trans (h.labels meter (List.mem_of_getElem? hmeter))

end Archive

section Runs

variable [Zero α] [Add α] [Sub α] {mode : Mode} {agentName agentInstanceName : String}

theorem Sound.step (h : Sound s) {action : Action α} (hfresh : s.Fresh action)
    (hstep : step mode agentName agentInstanceName s action = some s') : Sound s' := by
  cases action with
  | build name kind tags added =>
      obtain rfl := Option.some.inj hstep
      refine h.register ?_ hfresh.2 (Meter.labels_build name kind tags added)
      rw [Meter.getName_build]
      exact hfresh.1
  | increment meter value =>
      obtain rfl := Option.some.inj hstep
      exact h.modify _ (Meter.same_increment value)
  | addValue meter value =>
      obtain rfl := Option.some.inj hstep
      exact h.modify _ (Meter.same_addValue value)
  | send =>
      simp only [MeterService.step] at hstep
      split at hstep
      · next hbegin =>
        obtain rfl := Option.some.inj hstep
        refine h.send ?_
        cases mode with
        | sync =>
            simp only [State.mayBegin, Bool.and_eq_true, decide_eq_true_eq] at hbegin
            exact hbegin.1.1
        | async =>
            simp only [State.mayBegin, Bool.and_eq_true, decide_eq_true_eq] at hbegin
            exact hbegin.1
      · cases hstep
  | submit => exact h.submit hstep
  | archive currentMilliTime =>
      simp only [MeterService.step, Option.ite_none_right_eq_some] at hstep
      exact h.archive hstep.2

end Runs

end MeterService

end SkyWalking
