import SkyWalking.Trace.Propagation
import SkyWalking.Trace.Tree
import SkyWalking.Trace.Wellformed

/-!
# A fleet of traced processes

Processes that call the API hand each other the `sw8` item of a request. What was handed out may arrive
late, twice, at any process or never. Threads of one process hand each other snapshots.
-/

namespace SkyWalking

/-- What a reference says about the span that it refers to. -/
structure SpanName where
  traceId : String
  segmentId : String
  spanId : Int
  service : String
  serviceInstance : String

def SegmentRef.name (ref : SegmentRef) : SpanName :=
  { traceId := ref.traceId
    segmentId := ref.segmentId
    spanId := ref.spanId
    service := ref.service
    serviceInstance := ref.serviceInstance }

/-- A span that extracts the carrier may refer to this name. -/
def Carrier.Gives (carrier : Carrier) (name : SpanName) : Prop :=
  carrier.isValid = .ok true ∧
    ∃ ref, SegmentRef.ofCarrier carrier "CrossProcess" = .ok ref ∧ ref.name = name

/-- A carrier that was read from the item may give this name. -/
def HeaderGives (sw8 : String) (name : SpanName) : Prop :=
  ∃ correlation, ((Carrier.fresh correlation).setVal sw8).1.Gives name

/-- A span that continues the snapshot refers to this name. -/
def Snapshot.Gives (env : Env) (snapshot : Snapshot) (name : SpanName) : Prop :=
  SpanContext.isValidSnapshot snapshot = true ∧
    ∃ ref, SpanContext.buildRef env snapshot = .ok ref ∧ ref.name = name

namespace World

variable (env : Env) (w : World)

/-- A real span of the process has this place: the number in the segment. -/
structure Has (s : Nat) (segmentId : String) (spanId : Int) : Prop where
  lt : s < w.spans.size
  real : (w.span s).cls ≠ .NoopSpan
  segmentId_eq : (w.context (w.span s).context).segment.segmentId.value = segmentId
  spanId_eq : (w.span s).sid = spanId

/-- A context took up the trace, or the process generated its id. -/
def TraceOf (c : Nat) (traceId : String) : Prop :=
  (∃ id ∈ (w.context c).segment.relatedTraces, id.cls ≠ .NewID ∧ id.value = traceId) ∨
    ∃ k < w.uuids, traceId = env.uuid1 k

/-- The name is one of a real span of the process. -/
structure NamedBy (s : Nat) (name : SpanName) : Prop where
  has : w.Has s name.segmentId name.spanId
  traceId : w.TraceOf env (w.span s).context name.traceId
  service_eq : name.service = env.agentName
  serviceInstance_eq : name.serviceInstance = env.agentInstanceName

/-- The segment of a real span is related to a trace that came from elsewhere. -/
def Lists (s : Nat) (traceId : String) : Prop :=
  (w.span s).cls ≠ .NoopSpan →
    ∃ id ∈ (w.context (w.span s).context).segment.relatedTraces, id.cls ≠ .NewID ∧ id.value = traceId

end World

namespace ApiAction

/-- The span whose name a call hands out or writes down. -/
def announces (w : World) : ApiAction → Option Nat
  | .inject span => some span
  | .capture task _ => (w.view task).getLast?
  | .continued task _ _ => (w.view task).getLast?
  | .newSpan task _ _ _ => (w.view task).getLast?.filter fun top => (w.span top).depth = 0
  | _ => none

/-- The span that a call may give a reference to. -/
def taker (w : World) : ApiAction → Option Nat
  | .newSpan _ _ _ _ => some w.spans.size
  | .extract span _ => some span
  | .continued task _ _ => (w.view task).getLast?
  | _ => none

/-- The `sw8` item that a call hands out. -/
def sends (env : Env) (w : World) : ApiAction → List String
  | .inject span =>
      match Span.headers env span w with
      | .ok headers => [headers.sw8]
      | .error _ => []
  | _ => []

end ApiAction

/-- A span of a process. -/
@[ext]
structure Node where
  process : Nat
  span : Nat
  deriving DecidableEq

structure FleetAction where
  process : Nat
  call : ApiAction

/-- `flight` are the `sw8` items that were ever handed out, `announced` the spans whose name was handed out
to another process or to another thread. -/
structure Fleet where
  world : Nat → World
  flight : List String
  announced : List Node

namespace Fleet

def init : Fleet := ⟨fun _ => .init, [], []⟩

variable (envs : Nat → Env)

/-- One process makes a call. -/
def call (f : Fleet) (action : FleetAction) : Fleet :=
  let env := envs action.process
  let w := f.world action.process
  { world := Function.update f.world action.process (action.call.run env w)
    flight := f.flight ++ action.call.sends env w
    announced := f.announced ++ (action.call.announces w).toList.map (Node.mk action.process) }

def Step (f : Fleet) (action : FleetAction) (f' : Fleet) : Prop :=
  action.call.Enabled (f.world action.process) ∧ f' = f.call envs action

/-- The fleet after a call that is possible. -/
def next (f : Fleet) (action : FleetAction) : Option Fleet :=
  if action.call.Enabled (f.world action.process) then some (f.call envs action) else none

/-- A request brings an empty item or one that was handed out. -/
def Delivers (f : Fleet) : ApiAction → Prop
  | .receive sw8 _ => sw8 = "" ∨ sw8 ∈ f.flight
  | _ => True

end Fleet

/-- Snapshots are taken and continued in the context of the span on top of the stack. -/
def HandsOver (w : World) : ApiAction → Prop
  | .capture task self | .continued task self _ =>
      ∀ top ∈ (w.view task).getLast?, (w.span top).cls = .NoopSpan ∨ self = (w.span top).context
  | _ => True

/-- No message is made up, and no task hands over a context that it is not in. -/
def Fleet.Honest (f : Fleet) (action : FleetAction) : Prop :=
  f.Delivers action.call ∧ HandsOver (f.world action.process) action.call

instance decidableDelivers (f : Fleet) : ∀ call : ApiAction, Decidable (f.Delivers call)
  | .receive sw8 _ => inferInstanceAs (Decidable (sw8 = "" ∨ sw8 ∈ f.flight))
  | .spawn _ _ | .thread _ | .getContext _ _ | .newSpan _ _ _ _ | .start _ _ | .stop _ _ _
  | .raised _ _ | .edit _ _ | .inject _ | .extract _ _ | .putCorrelation _ _ _ | .capture _ _
  | .continued _ _ _ | .wait _ => inferInstanceAs (Decidable True)

instance decidableHandsOver (w : World) : ∀ call : ApiAction, Decidable (HandsOver w call)
  | .capture task self | .continued task self _ =>
      inferInstanceAs (Decidable (∀ top ∈ (w.view task).getLast?,
        (w.span top).cls = .NoopSpan ∨ self = (w.span top).context))
  | .spawn _ _ | .thread _ | .getContext _ _ | .newSpan _ _ _ _ | .start _ _ | .stop _ _ _
  | .raised _ _ | .edit _ _ | .inject _ | .receive _ _ | .extract _ _ | .putCorrelation _ _ _
  | .wait _ => inferInstanceAs (Decidable True)

instance (f : Fleet) (action : FleetAction) : Decidable (f.Honest action) :=
  inferInstanceAs (Decidable (f.Delivers action.call ∧ HandsOver (f.world action.process) action.call))

/-- No two processes generate the same identifier. -/
def Apart (envs : Nat → Env) : Prop :=
  ∀ p q n m, (envs p).uuid1 n = (envs q).uuid1 m → p = q

/-- Every reference leads to one span in the fleet, of the service and the instance that it names, and the
segment that it is in lists the trace that it names. -/
structure Fleet.Linked (envs : Nat → Env) (f : Fleet) : Prop where
  resolves : ∀ p, ∀ s < (f.world p).spans.size, ∀ ref ∈ ((f.world p).span s).refs, ∃ q t,
    (f.world q).NamedBy (envs q) t ref.name ∧
      ∀ q' t', (f.world q').Has t' ref.segmentId ref.spanId → q' = q ∧ t' = t
  lists : ∀ p, ∀ s < (f.world p).spans.size, ∀ ref ∈ ((f.world p).span s).refs,
    (f.world p).Lists s ref.traceId

namespace Fleet

variable (f : Fleet)

def IsSpan (a : Node) : Prop :=
  a.span < (f.world a.process).spans.size ∧ ((f.world a.process).span a.span).cls ≠ .NoopSpan

/-- The first span is a child of the second in its segment. -/
def IsChild (a b : Node) : Prop :=
  a.process = b.process ∧
    ((f.world a.process).span a.span).context = ((f.world b.process).span b.span).context ∧
    ((f.world a.process).span a.span).pid = ((f.world b.process).span b.span).sid

/-- The first span refers to the second. -/
def RefersTo (a b : Node) : Prop :=
  ∃ ref ∈ ((f.world a.process).span a.span).refs,
    (f.world b.process).Has b.span ref.segmentId ref.spanId

def CausedBy (a b : Node) : Prop :=
  f.IsSpan a ∧ f.IsSpan b ∧ (f.IsChild a b ∨ f.RefersTo a b)

/-- The name of the span was not handed out, and it has no child. -/
def Leaf (a : Node) : Prop :=
  a ∉ f.announced ∧ ∀ s < (f.world a.process).spans.size,
    ((f.world a.process).span s).cls ≠ .NoopSpan → ¬ f.IsChild ⟨a.process, s⟩ a

instance (a : Node) : Decidable (f.Leaf a) :=
  inferInstanceAs (Decidable (a ∉ f.announced ∧ ∀ s < (f.world a.process).spans.size,
    ((f.world a.process).span s).cls ≠ .NoopSpan → ¬ (a.process = a.process ∧
      ((f.world a.process).span s).context = ((f.world a.process).span a.span).context ∧
      ((f.world a.process).span s).pid = ((f.world a.process).span a.span).sid)))

/-- References are given to spans that are not yet a cause of anything. -/
def TakesFirst (p : Nat) : ApiAction → Prop
  | .extract span _ => ((f.world p).span span).cls ≠ .NoopSpan → f.Leaf ⟨p, span⟩
  | .continued task _ _ => ∀ top ∈ ((f.world p).view task).getLast?,
      ((f.world p).span top).cls ≠ .NoopSpan → f.Leaf ⟨p, top⟩
  | _ => True

instance decidableTakesFirst (p : Nat) : ∀ call : ApiAction, Decidable (f.TakesFirst p call)
  | .extract span _ =>
      inferInstanceAs (Decidable (((f.world p).span span).cls ≠ .NoopSpan → f.Leaf ⟨p, span⟩))
  | .continued task _ _ =>
      inferInstanceAs (Decidable (∀ top ∈ ((f.world p).view task).getLast?,
        ((f.world p).span top).cls ≠ .NoopSpan → f.Leaf ⟨p, top⟩))
  | .spawn _ _ | .thread _ | .getContext _ _ | .newSpan _ _ _ _ | .start _ _ | .stop _ _ _
  | .raised _ _ | .edit _ _ | .inject _ | .receive _ _ | .putCorrelation _ _ _ | .capture _ _
  | .wait _ => inferInstanceAs (Decidable True)

/-- Beyond `Honest`, spans are asked for in the current context and take up references first of all. -/
def Causal (action : FleetAction) : Prop :=
  f.Honest action ∧ InContext (f.world action.process) action.call ∧
    f.TakesFirst action.process action.call

instance (action : FleetAction) : Decidable (f.Causal action) :=
  inferInstanceAs (Decidable (f.Honest action ∧ InContext (f.world action.process) action.call ∧
    f.TakesFirst action.process action.call))

/-- Nothing caused itself, and everything goes back to a span without a parent and without references. -/
structure Founded : Prop where
  acyclic : ∀ a, ¬ Relation.TransGen f.CausedBy a a
  origin : ∀ a, f.IsSpan a → ∃ b, Relation.ReflTransGen f.CausedBy a b ∧ f.IsSpan b ∧
    ((f.world b.process).span b.span).pid = -1 ∧ ((f.world b.process).span b.span).refs = []

end Fleet

end SkyWalking
