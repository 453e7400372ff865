import SkyWalking.Trace.Api

/-!
# The times of logs

A span takes its two times from the clock when it is entered and when it is left for the last time. The
time of a log is the default of a parameter of `Log`, which Python evaluates once, when it defines the
class.
-/

namespace SkyWalking

/-- The logs of a span were made while it was open, one after the other. -/
structure Span.LogsWithin (span : Span) : Prop where
  within : ∀ log ∈ span.logs,
    span.startTime ≤ millis log.timestamp ∧ millis log.timestamp ≤ span.endTime
  ordered : span.logs.Pairwise fun earlier later => earlier.timestamp ≤ later.timestamp

instance decidableLogsWithin (span : Span) : Decidable span.LogsWithin :=
  decidable_of_iff ((∀ log ∈ span.logs,
      span.startTime ≤ millis log.timestamp ∧ millis log.timestamp ≤ span.endTime) ∧
    span.logs.Pairwise fun earlier later => earlier.timestamp ≤ later.timestamp)
    ⟨fun h => ⟨h.1, h.2⟩, fun h => ⟨h.within, h.ordered⟩⟩

/-- The spans of the segments that were handed to the reporter. -/
def World.LogsWithin (w : World) : Prop :=
  ∀ c ∈ w.archived, ∀ s ∈ (w.context c).segment.spans, (w.span s).LogsWithin

instance decidableWorldLogsWithin (w : World) : Decidable w.LogsWithin :=
  inferInstanceAs (Decidable
    (∀ c ∈ w.archived, ∀ s ∈ (w.context c).segment.spans, (w.span s).LogsWithin))

/-- A process that has imported the package and done nothing else. -/
def World.imported (env : Env) : World := { World.init with now := env.importTime }

/-- The call makes a log on a span. -/
def ApiAction.logs : ApiAction → Option Nat
  | .raised span _ => some span
  | .edit span (.log _) => some span
  | _ => none

/-- Spans are not entered again after they were left for the last time, only open spans are left and get
logs, and the clock does not go back. -/
def Nested (w : World) : ApiAction → Prop
  | .start _ span => (w.span span).cls ≠ .NoopSpan → (w.span span).depth = 0 →
      span ∉ (w.context (w.span span).context).segment.spans
  | .stop _ span _ => 0 < (w.span span).depth
  | .raised span _ => 0 < (w.span span).depth
  | .edit span (.log _) => 0 < (w.span span).depth
  | .wait seconds => 0 ≤ seconds
  | _ => True

instance decidableNested (w : World) : ∀ action : ApiAction, Decidable (Nested w action)
  | .start _ span => inferInstanceAs (Decidable ((w.span span).cls ≠ .NoopSpan →
      (w.span span).depth = 0 → span ∉ (w.context (w.span span).context).segment.spans))
  | .stop _ span _ | .raised span _ | .edit span (.log _) =>
      inferInstanceAs (Decidable (0 < (w.span span).depth))
  | .wait seconds => inferInstanceAs (Decidable (0 ≤ seconds))
  | .edit _ (.op _) | .edit _ (.peer _) | .edit _ (.component _) | .edit _ (.layer _)
  | .edit _ (.tag _) | .spawn _ _ | .thread _ | .getContext _ _ | .newSpan _ _ _ _ | .inject _
  | .receive _ _ | .extract _ _ | .putCorrelation _ _ _ | .capture _ _ | .continued _ _ _ =>
      inferInstanceAs (Decidable True)

/-- A log is made only on a span that was entered in the millisecond in which the package was
imported. -/
def Prompt (env : Env) (w : World) (action : ApiAction) : Prop :=
  ∀ span ∈ action.logs, (w.span span).cls ≠ .NoopSpan →
    (w.span span).startTime = millis env.importTime

instance decidablePrompt (env : Env) (w : World) (action : ApiAction) :
    Decidable (Prompt env w action) :=
  inferInstanceAs (Decidable (∀ span ∈ action.logs, (w.span span).cls ≠ .NoopSpan →
    (w.span span).startTime = millis env.importTime))

end SkyWalking
