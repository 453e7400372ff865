import SkyWalking.Lib.Run
import SkyWalking.Trace.Block

/-!
# Runs of the tracing API

Any number of tasks and threads call the API in any order, on any object they have got hold of: a
context may be kept in a variable and used again after its root span has ended, a span may be entered
again after it was left.
-/

namespace SkyWalking

/-- A new task starts with the context variables of its creator, a new thread with none. -/
inductive ApiAction where
  | spawn (creator child : Nat)
  | thread (child : Nat)
  | getContext (task : Nat) (sampled : Bool)
  | newSpan (task self : Nat) (answers : Answers) (call : Call)
  | start (task span : Nat)
  | stop (task span : Nat) (queueFull : Bool)
  | raised (span : Nat) (traceback : String)
  | edit (span : Nat) (change : Edit)
  | inject (span : Nat)
  | receive (sw8 correlation : String)
  | extract (span carrier : Nat)
  | putCorrelation (self : Nat) (key value : Option String)
  | capture (task self : Nat)
  | continued (task self snapshot : Nat)
  | wait (seconds : ℚ)

/-- The world that a call leaves behind, also if it raises. -/
def ApiAction.run (env : Env) (w : World) : ApiAction → World
  | .spawn creator child => w.spawn creator child
  | .thread child => { w with vars := Function.update w.vars child none }
  | .getContext task sampled => (SkyWalking.getContext env task sampled w).1
  | .newSpan task self answers call => (call.run env task self answers w).1
  | .start task span => Span.start task span w
  | .stop task span queueFull => (Span.stop task span queueFull w).1
  | .raised span traceback => Span.raised env traceback span w
  | .edit span change => (change.run env span w).1
  | .inject span => (Span.inject env span w).1
  | .receive sw8 correlation => (receiveCarrier env sw8 correlation w).1
  | .extract span carrier => (Span.extract env span (w.carriers.get carrier) w).1
  | .putCorrelation self key value => SpanContext.putCorrelation env self key value w
  | .capture task self => (SpanContext.capture task self w).1
  | .continued task self snapshot => (SpanContext.continued env task self snapshot w).1
  | .wait seconds => { w with now := w.now + seconds }

/-- The objects that a call names exist. -/
def ApiAction.Enabled (w : World) : ApiAction → Prop
  | .newSpan _ self _ call => self < w.contexts.size ∧ ∀ a ∈ call.carrier, a < w.carriers.size
  | .start _ span => span < w.spans.size
  | .stop _ span _ => span < w.spans.size
  | .raised span _ => span < w.spans.size
  | .edit span _ => span < w.spans.size
  | .inject span => span < w.spans.size
  | .extract span carrier => span < w.spans.size ∧ carrier < w.carriers.size
  | .putCorrelation self _ _ => self < w.contexts.size
  | .capture _ self => self < w.contexts.size
  | .continued _ self snapshot => self < w.contexts.size ∧ snapshot < w.snapshots.size
  | _ => True

instance decidableEnabled (w : World) : ∀ action : ApiAction, Decidable (action.Enabled w)
  | .spawn _ _ | .thread _ | .getContext _ _ | .receive _ _ | .wait _ =>
      inferInstanceAs (Decidable True)
  | .newSpan _ self _ call =>
      inferInstanceAs (Decidable (self < w.contexts.size ∧ ∀ a ∈ call.carrier, a < w.carriers.size))
  | .start _ span | .stop _ span _ | .raised span _ | .edit span _ | .inject span =>
      inferInstanceAs (Decidable (span < w.spans.size))
  | .extract span carrier =>
      inferInstanceAs (Decidable (span < w.spans.size ∧ carrier < w.carriers.size))
  | .putCorrelation self _ _ | .capture _ self =>
      inferInstanceAs (Decidable (self < w.contexts.size))
  | .continued _ self snapshot =>
      inferInstanceAs (Decidable (self < w.contexts.size ∧ snapshot < w.snapshots.size))

/-- The request makes an entry span, and the carrier that came with it is valid. -/
def Call.Extracts (task self : Nat) (answers : Answers) (w : World) (carrier : Nat) : Call → Prop
  | .newEntrySpan _ given inherit => given = some carrier ∧
      SpanContext.MakesEntry task self answers given inherit w ∧
      (w.carriers.get carrier).isValid = .ok true
  | _ => False

/-- The call brings the trace and the correlation map of a carrier into a context. Under a finished
parent that is the context of the new segment. -/
def ApiAction.Extracts (w : World) (context carrier : Nat) : ApiAction → Prop
  | .newSpan task self answers call => call.Extracts task self answers w carrier ∧
      context = if SpanContext.isFinished (w.view task).getLast? w then w.contexts.size else self
  | .extract span given => given = carrier ∧ (w.span span).cls ≠ .NoopSpan ∧
      (w.span span).context = context
  | _ => False

def ApiStep (env : Env) (w : World) (action : ApiAction) (w' : World) : Prop :=
  action.Enabled w ∧ w' = action.run env w

/-- The worlds that a process can be in. -/
def Reachable (env : Env) (w : World) : Prop := ∃ actions, Run (ApiStep env) .init actions w

/-- A real span that nobody is inside is entered only if it was not finished before and its segment was
not archived. -/
def StartsFresh (w : World) : ApiAction → Prop
  | .start _ span => (w.span span).cls ≠ .NoopSpan → (w.span span).depth = 0 →
      span ∉ (w.context (w.span span).context).segment.spans ∧
        (w.span span).context ∉ w.archived
  | _ => True

instance decidableStartsFresh (w : World) : ∀ action : ApiAction, Decidable (StartsFresh w action)
  | .start _ span =>
      inferInstanceAs (Decidable ((w.span span).cls ≠ .NoopSpan → (w.span span).depth = 0 →
        span ∉ (w.context (w.span span).context).segment.spans ∧
          (w.span span).context ∉ w.archived))
  | .spawn _ _ | .thread _ | .getContext _ _ | .newSpan _ _ _ _ | .stop _ _ _ | .raised _ _
  | .edit _ _ | .inject _ | .receive _ _ | .extract _ _ | .putCorrelation _ _ _ | .capture _ _
  | .continued _ _ _ | .wait _ => inferInstanceAs (Decidable True)

/-- The world after a list of calls that meet a condition. -/
def runActions (env : Env) (guard : World → ApiAction → Prop)
    [∀ w action, Decidable (guard w action)] : World → List ApiAction → Option World
  | w, [] => some w
  | w, action :: rest =>
      if guard w action ∧ action.Enabled w then runActions env guard (action.run env w) rest
      else none

/-- No segment is archived twice and no span occurs twice in a segment. -/
def World.AtMostOnce (w : World) : Prop :=
  w.archived.Nodup ∧ ∀ c, (w.context c).segment.spans.Nodup

end SkyWalking
