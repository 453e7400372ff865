import Mathlib
import SkyWalking.Lib.Search

/-!
# Histograms

A histogram counts values into buckets; a bucket is named by the step it begins at. The values come from
any linear order.
-/

namespace SkyWalking

/-- A `Histogram.Bucket`. -/
structure Bucket (α : Type) where
  bucket : α
  count : Nat := 0
  deriving DecidableEq, Repr

def Bucket.increment {α : Type} (b : Bucket α) (count : Nat) : Bucket α :=
  { b with count := b.count + count }

theorem map_modify_increment {α : Type} (buckets : List (Bucket α)) (index count : Nat) :
    (buckets.modify index (Bucket.increment · count)).map Bucket.bucket =
      buckets.map Bucket.bucket := by
  refine List.ext_getElem? fun i => ?_
  rw [List.getElem?_map, List.getElem?_map, List.getElem?_modify]
  cases buckets[i]? with
  | none => rfl
  | some b =>
      simp only [Option.map_eq_map, Option.map_some]
      split <;> rfl

/-- `init_bucks`. -/
def initBucks {α : Type} (steps : List α) : List (Bucket α) :=
  steps.map fun step => { bucket := step }

theorem map_initBucks {α : Type} (steps : List α) : (initBucks steps).map Bucket.bucket = steps := by
  rw [initBucks, List.map_map]
  exact List.map_id steps

structure Histogram (α : Type) [LinearOrder α] where
  minValue : α
  buckets : List (Bucket α)
  first : (buckets.map Bucket.bucket).head? = some minValue
  sorted : (buckets.map Bucket.bucket).Pairwise (· < ·)

namespace Histogram

variable {α : Type} [LinearOrder α]

/-- `sorted(set(steps))`. -/
def sortedSet (steps : List α) : List α := steps.dedup.insertionSort (· ≤ ·)

theorem mem_sortedSet {steps : List α} {step : α} : step ∈ sortedSet steps ↔ step ∈ steps := by
  rw [sortedSet, List.mem_insertionSort, List.mem_dedup]

theorem sortedSet_pairwise (steps : List α) : (sortedSet steps).Pairwise (· < ·) := by
  have hsorted : (sortedSet steps).Pairwise (· ≤ ·) := List.pairwise_insertionSort (· ≤ ·) _
  have hnodup : (sortedSet steps).Nodup :=
    (List.perm_insertionSort (· ≤ ·) _).nodup_iff.mpr steps.nodup_dedup
  exact hsorted.imp₂ (fun _ _ hle hne => lt_of_le_of_ne hle hne) hnodup

/-- The constructor; the error is the message of the exception. -/
def new (steps : List α) (minValue : α) : Except String (Histogram α) :=
  match hsteps : sortedSet steps with
  | [] => .error "steps must not be empty"
  | first :: rest =>
      if hlt : first < minValue then .error "steps are invalid"
      else if heq : first = minValue then
        .ok
          { minValue := minValue
            buckets := initBucks (first :: rest)
            first := by rw [map_initBucks, List.head?_cons, heq]
            sorted := by
              rw [map_initBucks, ← hsteps]
              exact sortedSet_pairwise steps }
      else
        .ok
          { minValue := minValue
            buckets := initBucks (minValue :: first :: rest)
            first := by rw [map_initBucks, List.head?_cons]
            sorted := by
              have hfirst : minValue < first := lt_of_le_of_ne (not_lt.mp hlt) (Ne.symm heq)
              have hpairwise : (first :: rest).Pairwise (· < ·) := hsteps ▸ sortedSet_pairwise steps
              rw [map_initBucks, List.pairwise_cons]
              refine ⟨fun step hstep => ?_, hpairwise⟩
              obtain rfl | hrest := List.mem_cons.mp hstep
              · exact hfirst
              · exact hfirst.trans (List.rel_of_pairwise_cons hpairwise hrest) }

/-- `self.buckets[mid].bucket < value`; the search asks for indices of buckets only. -/
def isBelow (h : Histogram α) (value : α) (mid : Nat) : Bool :=
  h.buckets[mid]?.any fun b => decide (b.bucket < value)

/-- The index of the bucket that is found. -/
def findBucket (h : Histogram α) (value : α) : Option Nat :=
  let left : Int := Search.firstFailing (h.isBelow value) 0 h.buckets.length - 1
  if left < h.buckets.length ∧ left ≥ 0 then some left.toNat else none

def incrementAt (h : Histogram α) (index : Nat) : Histogram α :=
  { h with
    buckets := h.buckets.modify index (Bucket.increment · 1)
    first := by rw [map_modify_increment]; exact h.first
    sorted := by rw [map_modify_increment]; exact h.sorted }

def addValue (h : Histogram α) (value : α) : Histogram α :=
  match h.findBucket value with
  | none => h
  | some bucket => h.incrementAt bucket

def addValues (h : Histogram α) (values : List α) : Histogram α := values.foldl addValue h

def steps (h : Histogram α) : List α := h.buckets.map Bucket.bucket

def total (h : Histogram α) : Nat := (h.buckets.map Bucket.count).sum

/-- The value was counted into `[step1, step2)`: into the bucket with the greatest step not above it,
or into none if it is below the minimum. -/
def CountsInto (h : Histogram α) (value : α) (h' : Histogram α) : Prop :=
  if h.minValue ≤ value then
    ∃ index step, h.steps[index]? = some step ∧
      IsGreatest {step | step ∈ h.steps ∧ step ≤ value} step ∧ h' = h.incrementAt index
  else h' = h

/-- Every value is counted by the rule. -/
def Follows (h : Histogram α) : List α → Prop
  | [] => True
  | value :: rest => h.CountsInto value (h.addValue value) ∧ (h.addValue value).Follows rest

/-- The rule is followed by every call, and nothing from the minimum on is lost. -/
structure Counts (h : Histogram α) (values : List α) : Prop where
  follows : h.Follows values
  total : (h.addValues values).total = h.total + values.countP fun value => decide (h.minValue ≤ value)

end Histogram

end SkyWalking
