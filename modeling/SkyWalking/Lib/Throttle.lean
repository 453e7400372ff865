import Mathlib.Algebra.Order.Group.Basic
import Mathlib.Data.List.Chain
import Mathlib.Tactic.Abel

/-!
# Events that are let through at intervals

A throttle notes for each key when it last let an event through, and holds the next one back until the
interval is over. A key that has let nothing through counts as one that did at time 0.
-/

variable {κ T : Type*}

/-- The times of the events of one key. -/
def timesOf [DecidableEq κ] (events : List (κ × T)) (key : κ) : List T :=
  (events.filter fun event => event.1 = key).map Prod.snd

theorem mem_timesOf [DecidableEq κ] {events : List (κ × T)} {key : κ} {t : T} :
    t ∈ timesOf events key ↔ (key, t) ∈ events := by
  simp [timesOf]

theorem timesOf_snoc [DecidableEq κ] (events : List (κ × T)) (key key' : κ) (t : T) :
    timesOf (events ++ [(key, t)]) key' = timesOf events key' ++ if key = key' then [t] else [] := by
  by_cases hkey : key = key' <;> simp [timesOf, hkey]

variable [AddCommGroup T] [LinearOrder T] [IsOrderedAddMonoid T]

/-- Each event is at least the interval behind the one before it. -/
def Spaced (interval : T) (times : List T) : Prop :=
  times.Pairwise fun earlier later => earlier + interval ≤ later

/-- The interval passes between two events, so a window is as long as its events make it. -/
theorem Spaced.nsmul_le {interval : T} {times : List T} (h : Spaced interval times) {low high : T}
    (hwindow : low ≤ high + interval) (hmem : ∀ t ∈ times, low ≤ t ∧ t ≤ high) :
    times.length • interval ≤ high - low + interval := by
  induction times generalizing low with
  | nil =>
      rw [List.length_nil, zero_nsmul, sub_add_eq_add_sub]
      exact sub_nonneg.mpr hwindow
  | cons t rest ih =>
      obtain ⟨hfirst, hrest⟩ := List.pairwise_cons.mp h
      obtain ⟨hlow, hhigh⟩ := hmem t List.mem_cons_self
      have hle : rest.length • interval ≤ high - (t + interval) + interval := by
        apply ih hrest
        · exact add_le_add hhigh (le_refl interval)
        · intro later hlater
          exact ⟨hfirst later hlater, (hmem later (List.mem_cons_of_mem t hlater)).2⟩
      calc (rest.length + 1) • interval = rest.length • interval + interval := succ_nsmul _ _
        _ ≤ high - (t + interval) + interval + interval := add_le_add hle (le_refl interval)
        _ = high - t + interval := by abel
        _ ≤ high - low + interval := by gcongr

/-- How a throttle relates the events that it has seen to those that it let through. -/
structure Throttled [DecidableEq κ] (interval : T) (last : κ → Option T) (seen passed : List (κ × T)) :
    Prop where
  last_eq : ∀ key, last key = (timesOf passed key).getLast?
  spaced : ∀ key, Spaced interval (timesOf passed key)
  /-- An event that was held back follows one of its key that was let through not long ago. -/
  covered : ∀ key t, (key, t) ∈ seen → interval ≤ t →
    ∃ earlier, (key, earlier) ∈ passed ∧ earlier ≤ t ∧ t < earlier + interval
  sublist : passed.Sublist seen

namespace Throttled

variable [DecidableEq κ] {interval : T} {last : κ → Option T} {seen passed : List (κ × T)} {key : κ} {now : T}

omit [IsOrderedAddMonoid T] in
theorem init (interval : T) : Throttled interval (fun _ : κ => none) [] [] where
  last_eq _ := rfl
  spaced _ := List.Pairwise.nil
  covered _ _ h := by cases h
  sublist := List.Sublist.refl _

theorem le_last (h : Throttled interval last seen passed) (hinterval : 0 ≤ interval) {t t' : T}
    (ht : (key, t) ∈ passed) (hlast : last key = some t') : t ≤ t' := by
  rw [h.last_eq key] at hlast
  obtain ⟨before, hbefore⟩ := List.getLast?_eq_some_iff.mp hlast
  have hmem := mem_timesOf.mpr ht
  have hspaced := h.spaced key
  rw [hbefore] at hmem hspaced
  obtain hmem | hmem := List.mem_append.mp hmem
  · have hle := (List.pairwise_append.mp hspaced).2.2 t hmem t' List.mem_cons_self
    exact (le_add_of_nonneg_right hinterval).trans hle
  · exact (List.mem_singleton.mp hmem).le

/-- An event is let through. -/
theorem pass (h : Throttled interval last seen passed) (hinterval : 0 < interval)
    (hopen : interval ≤ now - (last key).getD 0) :
    Throttled interval (Function.update last key (some now)) (seen ++ [(key, now)])
      (passed ++ [(key, now)]) where
  last_eq key' := by
    rw [timesOf_snoc]
    by_cases hkey : key' = key
    · subst hkey
      rw [Function.update_self, if_pos rfl, List.getLast?_concat]
    · rw [Function.update_of_ne hkey, if_neg (Ne.symm hkey), List.append_nil]
      exact h.last_eq key'
  spaced key' := by
    rw [timesOf_snoc]
    by_cases hkey : key = key'
    · subst hkey
      rw [if_pos rfl]
      refine List.pairwise_append.mpr ⟨h.spaced key, List.pairwise_singleton _ _, fun t ht later hlater => ?_⟩
      obtain rfl := List.mem_singleton.mp hlater
      cases hlast : last key with
      | none =>
          rw [h.last_eq key, List.getLast?_eq_none_iff] at hlast
          rw [hlast] at ht
          cases ht
      | some t' =>
          have hle := h.le_last hinterval.le (mem_timesOf.mp ht) hlast
          rw [hlast, Option.getD_some] at hopen
          calc t + interval ≤ t' + interval := by gcongr
            _ ≤ later := by rw [add_comm]; exact le_sub_iff_add_le.mp hopen
    · rw [if_neg hkey, List.append_nil]
      exact h.spaced key'
  covered key' t hmem ht := by
    obtain hold | hnew := List.mem_append.mp hmem
    · obtain ⟨earlier, hearlier, hle, hlt⟩ := h.covered key' t hold ht
      exact ⟨earlier, List.mem_append_left _ hearlier, hle, hlt⟩
    · obtain ⟨rfl, rfl⟩ := Prod.mk.inj (List.mem_singleton.mp hnew)
      exact ⟨t, List.mem_append_right _ List.mem_cons_self, le_refl t, lt_add_of_pos_right t hinterval⟩
  sublist := h.sublist.append (List.Sublist.refl _)

/-- An event is held back. -/
theorem hold (h : Throttled interval last seen passed) (hclosed : now - (last key).getD 0 < interval)
    (hpast : ∀ t, (key, t) ∈ seen → t ≤ now) :
    Throttled interval last (seen ++ [(key, now)]) passed where
  last_eq := h.last_eq
  spaced := h.spaced
  covered key' t hmem ht := by
    obtain hold | hnew := List.mem_append.mp hmem
    · exact h.covered key' t hold ht
    · obtain ⟨rfl, rfl⟩ := Prod.mk.inj (List.mem_singleton.mp hnew)
      cases hlast : last key' with
      | none =>
          rw [hlast, Option.getD_none, sub_zero] at hclosed
          exact absurd ht (not_le.mpr hclosed)
      | some earlier =>
          rw [hlast, Option.getD_some] at hclosed
          rw [h.last_eq key'] at hlast
          have hearlier := mem_timesOf.mp (List.mem_of_getLast? hlast)
          refine ⟨earlier, hearlier, hpast earlier (h.sublist.subset hearlier), ?_⟩
          exact sub_lt_iff_lt_add'.mp hclosed
  sublist := h.sublist.trans (List.sublist_append_left _ _)

/-- In a window of time a key lets through as many events as intervals fit in, and one more. -/
theorem nsmul_le (h : Throttled interval last seen passed) (hinterval : 0 ≤ interval) (key : κ) {low high : T}
    (hwindow : low ≤ high) :
    ((timesOf passed key).filter fun t => low ≤ t ∧ t ≤ high).length • interval ≤ high - low + interval := by
  have hspaced : Spaced interval ((timesOf passed key).filter fun t => low ≤ t ∧ t ≤ high) :=
    (h.spaced key).sublist List.filter_sublist
  refine hspaced.nsmul_le (hwindow.trans (le_add_of_nonneg_right hinterval)) fun t ht => ?_
  exact of_decide_eq_true (List.mem_filter.mp ht).2

end Throttled
