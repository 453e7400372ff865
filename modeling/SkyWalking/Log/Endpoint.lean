import SkyWalking.Log.Reporter

/-!
# The endpoint of a log

`PrimaryEndpoint` keeps one span of a context, and a log names the endpoint after it. The span is picked among
those that were put on a stack: the first entry span, and as long as there is none, the first span.
-/

namespace SkyWalking

/-- The span that a call puts on a stack. -/
def ApiAction.pushes (w : World) : ApiAction → Option Nat
  | .start task span => if (w.span span).depth = 0 ∧ span ∉ w.view task then some span else none
  | _ => none

/-- `pushed` records the spans that were put on a stack. -/
structure Observed where
  world : World
  pushed : List Nat

namespace Observed

def init : Observed := ⟨.init, []⟩

def Step (env : Env) (o : Observed) (action : ApiAction) (o' : Observed) : Prop :=
  ApiStep env o.world action o'.world ∧ o'.pushed = o.pushed ++ (action.pushes o.world).toList

/-- The state after a call that is possible. -/
def next (env : Env) (o : Observed) (action : ApiAction) : Option Observed :=
  if action.Enabled o.world then
    some ⟨action.run env o.world, o.pushed ++ (action.pushes o.world).toList⟩
  else none

/-- The spans of a context that were put on a stack. -/
def pushedIn (o : Observed) (c : Nat) : List Nat := o.pushed.filter fun s => (o.world.span s).context = c

/-- The span that the endpoint of a context is named after. -/
def first (o : Observed) (c : Nat) : Option Nat :=
  match (o.pushedIn c).find? fun s => (o.world.span s).kind = .Entry with
  | some entry => some entry
  | none => (o.pushedIn c).head?

/-- The name of the endpoint of a context, as it is now. -/
def endpointName (o : Observed) (c : Nat) : String := ((o.first c).map fun s => (o.world.span s).op).getD ""

/-- Contexts keep the span that the policy picks, and logs are named after it. -/
structure Picks (env : Env) (o : Observed) : Prop where
  primary : ∀ c, (o.world.context c).primaryEndpoint = o.first c
  logs : ∀ (reporter : LogReporter) task sampled (call : LogCall) data,
    (call.run env reporter task sampled o.world).2 = some data →
      data.endpoint = (((o.world.view task).getLast?).map fun top =>
        o.endpointName (o.world.span top).context).getD ""

end Observed

end SkyWalking
