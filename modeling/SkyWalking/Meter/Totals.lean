import Mathlib.Algebra.BigOperators.Group.List.Basic
import SkyWalking.Meter.Service

/-!
# What counters report

The messages of a counter, over all rounds, and what was added to it until then. The constructor of a counter
sets both of its numbers to zero.
-/

namespace SkyWalking

variable {α : Type} [LinearOrder α]

/-- A meter as its constructor makes it. -/
def MeterKind.IsNew [Zero α] : MeterKind α → Prop
  | .counter _ count previous => count = 0 ∧ previous = 0
  | .gauge _ drawn => drawn = 0
  | .histogram _ => True

instance [Zero α] (kind : MeterKind α) : Decidable kind.IsNew :=
  match kind with
  | .counter _ count previous => inferInstanceAs (Decidable (count = 0 ∧ previous = 0))
  | .gauge _ drawn => inferInstanceAs (Decidable (drawn = 0))
  | .histogram _ => isTrue trivial

namespace Metric

def value? : Metric α → Option α
  | .singleValue _ _ value => some value
  | .histogram _ _ _ => none

end Metric

namespace MeterService

/-- Meters are built by their constructors. -/
def Constructed [Zero α] (_ : State α) : Action α → Prop
  | .build _ kind _ _ => kind.IsNew
  | _ => True

instance [Zero α] (s : State α) (action : Action α) : Decidable (Constructed s action) :=
  match action with
  | .build _ kind _ _ => inferInstanceAs (Decidable kind.IsNew)
  | .increment .. | .addValue .. | .send | .submit | .archive _ => isTrue trivial

/-- What all rounds have archived. -/
def State.archived (s : State α) : List (Nat × MeterData α) := s.rounds.flatMap (·.archived)

/-- The values that were archived for a meter. -/
def State.valuesOf (s : State α) (number : Nat) : List α :=
  s.archived.filterMap fun entry => if entry.1 = number then entry.2.metric.value? else none

section Counted

variable [Zero α] [Add α]

/-- How many meters were built, and what was added to one of them. -/
def tally (number : Nat) (acc : Nat × α) : Action α → Nat × α
  | .build _ _ _ _ => (acc.1 + 1, acc.2)
  | .increment meter value => if meter = number ∧ number < acc.1 then (acc.1, acc.2 + value) else acc
  | _ => acc

/-- What was added to a meter by these actions. -/
def counted (actions : List (Action α)) (number : Nat) : α :=
  (actions.foldl (tally number) (0, 0)).2

variable [Sub α]

/-- What a counter has reported, for what was added to it. A counter of rates has reported everything but what
its next message is about; the other ones report a total each time. -/
structure Conserved (actions : List (Action α)) (s : State α) (number : Nat) : Prop where
  rate : ∀ meter, s.meters[number]? = some meter → ∀ count previous,
    meter.kind = .counter .rate count previous → ∀ next, meter.transform.1.value? = some next →
      (s.valuesOf number).sum + next = counted actions number
  increment : ∀ meter, s.meters[number]? = some meter → ∀ count previous,
    meter.kind = .counter .increment count previous → ∀ value ∈ s.valuesOf number,
      ∃ before, before <+: actions ∧ value = counted before number

end Counted

end MeterService

end SkyWalking
