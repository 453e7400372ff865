import SkyWalking.Meter.Histogram

/-!
# Which bucket counts a value

The search finds the last step below the value, so a value that is a step itself is counted one bucket
too early, and the minimum is not counted at all.
-/

namespace SkyWalking.Histogram

variable {α : Type} [LinearOrder α] {h : Histogram α} {value : α}

theorem isBelow_iff {mid : Nat} :
    h.isBelow value mid = true ↔ ∃ step, h.steps[mid]? = some step ∧ step < value := by
  unfold isBelow steps
  rw [List.getElem?_map]
  cases h.buckets[mid]? with
  | none => simp
  | some b => simp

theorem steps_lt {first second : Nat} (hlt : first < second) {step step' : α}
    (hstep : h.steps[first]? = some step) (hstep' : h.steps[second]? = some step') :
    step < step' := by
  obtain ⟨hfirst, rfl⟩ := List.getElem?_eq_some_iff.mp hstep
  obtain ⟨hsecond, rfl⟩ := List.getElem?_eq_some_iff.mp hstep'
  exact List.pairwise_iff_getElem.mp h.sorted first second hfirst hsecond hlt

theorem isBelow_mono (first second : Nat) (hle : first ≤ second)
    (hbelow : h.isBelow value second = true) : h.isBelow value first = true := by
  obtain ⟨step, hstep, hlt⟩ := isBelow_iff.mp hbelow
  obtain heq | hfirst := Nat.eq_or_lt_of_le hle
  · exact heq ▸ hbelow
  · have hbound := (List.getElem?_eq_some_iff.mp hstep).1
    obtain ⟨before, hbefore⟩ : ∃ before, h.steps[first]? = some before :=
      ⟨_, List.getElem?_eq_getElem (hfirst.trans hbound)⟩
    exact isBelow_iff.mpr ⟨before, hbefore, (steps_lt hfirst hbefore hstep).trans hlt⟩

theorem minValue_first : h.steps[0]? = some h.minValue := by
  have hfirst := h.first
  rwa [List.head?_eq_getElem?] at hfirst

theorem minValue_mem : h.minValue ∈ h.steps := List.mem_of_getElem? minValue_first

theorem minValue_le {step : α} (hstep : step ∈ h.steps) : h.minValue ≤ step := by
  obtain ⟨index, hindex⟩ := List.mem_iff_getElem?.mp hstep
  obtain rfl | hpos := Nat.eq_zero_or_pos index
  · exact (Option.some.inj (minValue_first.symm.trans hindex)).le
  · exact (steps_lt hpos minValue_first hindex).le

/-- The steps up to the found one are those below the value. -/
theorem findBucket_spec (h : Histogram α) (value : α) :
    (h.findBucket value = none ∧ ∀ step ∈ h.steps, value ≤ step) ∨
      ∃ index step, h.findBucket value = some index ∧ h.steps[index]? = some step ∧
        IsGreatest {step | step ∈ h.steps ∧ step < value} step := by
  have hlength : h.steps.length = h.buckets.length := List.length_map _
  have hbounds := Search.firstFailing_mem (h.isBelow value) (Nat.zero_le h.buckets.length)
  have hbelow : ∀ index < h.buckets.length, h.isBelow value index = true ↔
      index < Search.firstFailing (h.isBelow value) 0 h.buckets.length := by
    intro index hindex
    exact Search.test_iff isBelow_mono (Nat.zero_le index) hindex
  unfold findBucket
  generalize Search.firstFailing (h.isBelow value) 0 h.buckets.length = found at hbounds hbelow
  cases found with
  | zero =>
      refine .inl ⟨by simp, ?_⟩
      intro step hstep
      obtain ⟨index, hindex⟩ := List.mem_iff_getElem?.mp hstep
      have hlt := (List.getElem?_eq_some_iff.mp hindex).1
      by_contra hvalue
      have habsurd := (hbelow index (by omega)).mp
        (isBelow_iff.mpr ⟨step, hindex, not_le.mp hvalue⟩)
      omega
  | succ index =>
      obtain ⟨step, hstep, hlt⟩ := isBelow_iff.mp ((hbelow index (by omega)).mpr (by omega))
      refine .inr ⟨index, step, ?_, hstep, ⟨List.mem_of_getElem? hstep, hlt⟩, ?_⟩
      · have hleft : ((index + 1 : Nat) : Int) - 1 = index := by omega
        simp only [hleft]
        rw [if_pos (by omega), Int.toNat_natCast]
      · rintro other ⟨hother, hbefore⟩
        obtain ⟨place, hplace⟩ := List.mem_iff_getElem?.mp hother
        have hbound := (List.getElem?_eq_some_iff.mp hplace).1
        have hfound := (hbelow place (by omega)).mp (isBelow_iff.mpr ⟨other, hplace, hbefore⟩)
        obtain heq | hearlier := Nat.eq_or_lt_of_le (Nat.lt_succ_iff.mp hfound)
        · subst heq
          exact (Option.some.inj (hplace.symm.trans hstep)).le
        · exact (steps_lt hearlier hplace hstep).le

theorem steps_incrementAt (h : Histogram α) (index : Nat) : (h.incrementAt index).steps = h.steps :=
  map_modify_increment h.buckets index 1

theorem steps_addValue (h : Histogram α) (value : α) : (h.addValue value).steps = h.steps := by
  unfold addValue
  split
  · rfl
  · exact h.steps_incrementAt _

theorem minValue_addValue (h : Histogram α) (value : α) :
    (h.addValue value).minValue = h.minValue := by
  unfold addValue
  split <;> rfl

/-- The counts tell at which bucket a histogram was incremented. -/
theorem incrementAt_ne (index other : Nat) (hindex : index < h.buckets.length) (hne : index ≠ other) :
    h.incrementAt index ≠ h.incrementAt other := by
  intro heq
  have hbuckets := congrArg (fun h => h.buckets[index]?) heq
  simp only [incrementAt] at hbuckets
  rw [List.getElem?_modify_eq, List.getElem?_modify_ne _ _ hne.symm,
    List.getElem?_eq_getElem hindex] at hbuckets
  have hcount := congrArg Bucket.count (Option.some.inj hbuckets)
  simp [Bucket.increment] at hcount

theorem incrementAt_ne_self {index : Nat} (hindex : index < h.buckets.length) :
    h.incrementAt index ≠ h := by
  intro heq
  have hbuckets := congrArg (fun h => h.buckets[index]?) heq
  simp only [incrementAt] at hbuckets
  rw [List.getElem?_modify_eq, List.getElem?_eq_getElem hindex] at hbuckets
  have hcount := congrArg Bucket.count (Option.some.inj hbuckets)
  simp [Bucket.increment] at hcount

theorem countsInto_of_not_mem (hvalue : value ∉ h.steps) : h.CountsInto value (h.addValue value) := by
  have hset : {step | step ∈ h.steps ∧ step ≤ value} = {step | step ∈ h.steps ∧ step < value} := by
    ext step
    refine and_congr_right fun hstep => ?_
    refine ⟨fun hle => lt_of_le_of_ne hle ?_, le_of_lt⟩
    rintro rfl
    exact hvalue hstep
  unfold CountsInto addValue
  rw [hset]
  obtain ⟨hnone, hall⟩ | ⟨index, step, hsome, hstep, hgreatest⟩ := h.findBucket_spec value
  · have hbelow : ¬ h.minValue ≤ value := by
      intro hle
      exact hvalue (le_antisymm hle (hall _ minValue_mem) ▸ minValue_mem)
    rw [if_neg hbelow, hnone]
  · have habove : h.minValue ≤ value :=
      (minValue_le hgreatest.1.1).trans hgreatest.1.2.le
    rw [if_pos habove, hsome]
    exact ⟨index, step, hstep, hgreatest, rfl⟩

theorem not_countsInto_of_mem (hvalue : value ∈ h.steps) :
    ¬ h.CountsInto value (h.addValue value) := by
  unfold CountsInto addValue
  rw [if_pos (minValue_le hvalue)]
  rintro ⟨index, step, hstep, hgreatest, hadd⟩
  -- the greatest step not above the value is the value
  obtain rfl : step = value := le_antisymm hgreatest.1.2 (hgreatest.2 ⟨hvalue, le_rfl⟩)
  have hlength : h.steps.length = h.buckets.length := List.length_map _
  have hindex := (List.getElem?_eq_some_iff.mp hstep).1
  obtain ⟨hnone, -⟩ | ⟨found, before, hsome, hbefore, hbelow⟩ := h.findBucket_spec step
  · rw [hnone] at hadd
    exact incrementAt_ne_self (by omega) hadd.symm
  · rw [hsome] at hadd
    refine incrementAt_ne index found (by omega) ?_ hadd.symm
    rintro rfl
    obtain rfl := Option.some.inj (hstep.symm.trans hbefore)
    exact lt_irrefl _ hbelow.1.2

theorem follows_iff (values : List α) : ∀ h : Histogram α,
    h.Follows values ↔ ∀ value ∈ values, value ∉ h.steps := by
  induction values with
  | nil => simp [Follows]
  | cons value rest ih =>
      intro h
      rw [Follows, ih, steps_addValue, List.forall_mem_cons]
      refine and_congr_left fun _ => ⟨fun hcounts hmem => not_countsInto_of_mem hmem hcounts, ?_⟩
      exact countsInto_of_not_mem

theorem total_incrementAt {index : Nat} (hindex : index < h.buckets.length) :
    (h.incrementAt index).total = h.total + 1 := by
  obtain ⟨before, bucket, after, hbuckets, -, hmodify⟩ :=
    List.exists_of_modify (Bucket.increment · 1) hindex
  have htotal : (h.incrementAt index).total =
      ((h.buckets.modify index (Bucket.increment · 1)).map Bucket.count).sum := rfl
  rw [htotal, total, hmodify, hbuckets]
  simp only [List.map_append, List.map_cons, List.sum_append, List.sum_cons, Bucket.increment]
  omega

theorem total_addValue (h : Histogram α) (value : α) :
    (h.addValue value).total = h.total + if h.minValue < value then 1 else 0 := by
  have hlength : h.steps.length = h.buckets.length := List.length_map _
  unfold addValue
  obtain ⟨hnone, hall⟩ | ⟨index, step, hsome, hstep, hgreatest⟩ := h.findBucket_spec value
  · rw [hnone, if_neg (not_lt.mpr (hall _ minValue_mem))]
    rfl
  · have hindex := (List.getElem?_eq_some_iff.mp hstep).1
    rw [hsome, if_pos ((minValue_le hgreatest.1.1).trans_lt hgreatest.1.2)]
    exact total_incrementAt (by omega)

theorem total_addValues (values : List α) : ∀ h : Histogram α,
    (h.addValues values).total = h.total + values.countP fun value => decide (h.minValue < value) := by
  induction values with
  | nil => simp [addValues]
  | cons value rest ih =>
      intro h
      have hrest := ih (h.addValue value)
      rw [total_addValue, minValue_addValue] at hrest
      rw [List.countP_cons]
      simp only [addValues, List.foldl_cons, decide_eq_true_eq] at hrest ⊢
      omega

section New

variable {steps : List α} {minValue : α}

/-- The buckets of a new histogram begin at the minimum and at the steps, and are empty. -/
theorem new_eq_ok (hnew : Histogram.new steps minValue = .ok h) :
    h.minValue = minValue ∧ (∀ step, step ∈ h.steps ↔ step = minValue ∨ step ∈ steps) ∧
      ∃ starts, h.buckets = initBucks starts := by
  unfold Histogram.new at hnew
  split at hnew
  · cases hnew
  · next first rest hsteps =>
    have hmem : ∀ step, step ∈ first :: rest ↔ step ∈ steps := by
      intro step
      rw [← hsteps]
      exact mem_sortedSet
    split at hnew
    · cases hnew
    · split at hnew
      · next heq =>
        obtain rfl := Except.ok.inj hnew
        refine ⟨rfl, ?_, _, rfl⟩
        intro step
        rw [Histogram.steps, map_initBucks, hmem]
        refine ⟨.inr, ?_⟩
        rintro (rfl | hstep)
        · exact (hmem _).mp (heq ▸ List.mem_cons_self)
        · exact hstep
      · obtain rfl := Except.ok.inj hnew
        refine ⟨rfl, ?_, _, rfl⟩
        intro step
        rw [Histogram.steps, map_initBucks, List.mem_cons, hmem]

/-- The values are counted by the rule, and none of them is lost, exactly if none of them is a step or the
minimum. -/
theorem counts_iff (steps : List α) (minValue : α) (h : Histogram α)
    (hnew : Histogram.new steps minValue = .ok h) (values : List α) :
    h.Counts values ↔ ∀ value ∈ values, value ≠ minValue ∧ value ∉ steps := by
  obtain ⟨hmin, hsteps, -⟩ := new_eq_ok hnew
  have hmem : (∀ value ∈ values, value ∉ h.steps) ↔
      ∀ value ∈ values, value ≠ minValue ∧ value ∉ steps := by
    refine forall₂_congr fun value _ => ?_
    rw [hsteps, not_or]
  rw [← hmem, ← follows_iff]
  refine ⟨fun hcounts => hcounts.follows, fun hfollows => ⟨hfollows, ?_⟩⟩
  rw [total_addValues]
  congr 1
  refine List.countP_congr fun value hvalue => ?_
  have hne : value ≠ h.minValue := by
    rw [hmin]
    exact (hmem.mp ((follows_iff values h).mp hfollows) value hvalue).1
  simp only [decide_eq_true_eq]
  exact ⟨le_of_lt, fun hle => lt_of_le_of_ne hle hne.symm⟩

end New

theorem counts_between_steps : ∃ h : Histogram Int, Histogram.new [10, 5, 10] 0 = .ok h ∧
    (h.Counts [3, 12, -1, 7] ↔
      ∀ value ∈ ([3, 12, -1, 7] : List Int), value ≠ 0 ∧ value ∉ ([10, 5, 10] : List Int)) := by
  obtain ⟨h, hnew⟩ : ∃ h : Histogram Int, Histogram.new [10, 5, 10] 0 = .ok h := ⟨_, rfl⟩
  exact ⟨h, hnew, counts_iff [10, 5, 10] 0 h hnew [3, 12, -1, 7]⟩

/-- A value that is the minimum goes into no bucket. -/
theorem minValue_not_counted : ¬ ∀ (steps : List Int) (minValue : Int) (h : Histogram Int)
    (values : List Int), Histogram.new steps minValue = .ok h → h.Counts values := by
  intro hall
  obtain ⟨h, hnew⟩ : ∃ h : Histogram Int, Histogram.new [0, 1] 0 = .ok h := ⟨_, rfl⟩
  have hfollows := (hall [0, 1] 0 h [0] hnew).follows
  refine (follows_iff [0] h).mp hfollows 0 List.mem_cons_self ?_
  exact ((new_eq_ok hnew).2.1 0).mpr (.inl rfl)

end SkyWalking.Histogram
