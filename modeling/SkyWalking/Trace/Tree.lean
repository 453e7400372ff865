import SkyWalking.Lib.Descent
import SkyWalking.Trace.Api
import SkyWalking.Trace.Ledger

/-!
# The spans of a segment as a tree

A collector puts the spans of a segment together by their numbers: each names its parent, and -1 stands for
no parent.
-/

namespace SkyWalking

/-- The number that a span gives as that of its parent. -/
def Span.parentNumber (span : Span) : Option Int := if span.pid = -1 then none else some span.pid

/-- The spans that the segment of a context holds. -/
def World.recorded (w : World) (c : Nat) : Set Nat := {s | s ∈ (w.context c).segment.spans}

/-- One recorded span names another one of its segment as its parent. -/
def World.ParentOf (w : World) (c : Nat) : Nat → Nat → Prop :=
  ChildOf (w.recorded c) (fun s => (w.span s).sid) fun s => (w.span s).parentNumber

/-- The recorded spans hang on one span with the number 0 and no parent. -/
structure World.SegmentTree (w : World) (c : Nat) : Prop where
  tree : NumberedTree (w.recorded c) (fun s => (w.span s).sid) fun s => (w.span s).parentNumber
  root : ∃ r ∈ w.recorded c, (w.span r).sid = 0 ∧ (w.span r).pid = -1 ∧
    ∀ s ∈ w.recorded c, Relation.ReflTransGen (w.ParentOf c) s r

/-- The context that `get_context()` returns: that of the span on top of the stack, and on an empty stack
one that has created no span. -/
def World.IsCurrent (w : World) (self : Nat) : Option Nat → Prop
  | some top => self = (w.span top).context
  | none => (w.context self).noop = true ∨ (w.context self).sid = -1

instance decidableIsCurrent (w : World) (self : Nat) : ∀ top, Decidable (w.IsCurrent self top)
  | some top => inferInstanceAs (Decidable (self = (w.span top).context))
  | none => inferInstanceAs (Decidable ((w.context self).noop = true ∨ (w.context self).sid = -1))

/-- Spans are asked for in the current context. -/
def InContext (w : World) : ApiAction → Prop
  | .newSpan task self _ _ => w.IsCurrent self (w.view task).getLast?
  | _ => True

instance decidableInContext (w : World) : ∀ action : ApiAction, Decidable (InContext w action)
  | .newSpan task self _ _ => inferInstanceAs (Decidable (w.IsCurrent self (w.view task).getLast?))
  | .spawn _ _ | .thread _ | .getContext _ _ | .start _ _ | .stop _ _ _ | .raised _ _ | .edit _ _
  | .inject _ | .receive _ _ | .extract _ _ | .putCorrelation _ _ _ | .capture _ _
  | .continued _ _ _ | .wait _ => inferInstanceAs (Decidable True)

/-- Spans are asked for in the current context, no span is entered after it was closed, and none, also
one that was never entered, after its segment was archived. -/
def Orderly (w : World) (action : ApiAction) : Prop := StartsFresh w action ∧ InContext w action

instance decidableOrderly (w : World) (action : ApiAction) : Decidable (Orderly w action) :=
  inferInstanceAs (Decidable (StartsFresh w action ∧ InContext w action))

namespace Ledger

/-- A span was entered: somebody is inside, or it is recorded. -/
def Begun (l : Ledger) (s : Nat) : Prop :=
  0 < (l.span s).depth ∨ s ∈ (l.context (l.span s).context).spans

/-- A span may be created under this parent number: it is the first one of its context, or the number is
that of a span of the context that was entered. -/
def Fits (l : Ledger) (context : Nat) (pid : Int) : Prop :=
  pid = -1 ∧ (l.context context).sid = -1 ∨
    ∃ p < l.spans.size, (l.span p).noop = false ∧ (l.span p).context = context ∧
      (l.span p).sid = pid ∧ l.Begun p

/-- Every real span but the first one of its context has a parent in it that was entered. -/
structure Parented (l : Ledger) : Prop where
  root : ∀ s < l.spans.size, (l.span s).noop = false → ((l.span s).pid = -1 ↔ (l.span s).sid = 0)
  parent : ∀ s < l.spans.size, (l.span s).noop = false → (l.span s).pid ≠ -1 →
    ∃ p < l.spans.size, (l.span p).noop = false ∧ (l.span p).context = (l.span s).context ∧
      (l.span p).sid = (l.span s).pid ∧ (l.span s).pid < (l.span s).sid ∧ l.Begun p

/-- What exists keeps what identifies it, and what was entered stays entered. -/
structure Extends (l l' : Ledger) : Prop where
  size_le : l.spans.size ≤ l'.spans.size
  same : ∀ s < l.spans.size, (l'.span s).noop = (l.span s).noop ∧
    (l'.span s).context = (l.span s).context ∧ (l'.span s).sid = (l.span s).sid ∧
    (l'.span s).pid = (l.span s).pid
  begun : ∀ s < l.spans.size, (l.span s).noop = false → l.Begun s → l'.Begun s

/-- What was archived holds a span. -/
def Filled (l : Ledger) : Prop := ∀ c ∈ l.archived, (l.context c).spans ≠ []

end Ledger

end SkyWalking
