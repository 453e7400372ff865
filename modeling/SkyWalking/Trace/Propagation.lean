import SkyWalking.Trace.Api

/-!
# Carrying a trace on

What a segment owes to the one that it continues: under a finished parent in the same process, behind
the two headers of a request, and behind a snapshot handed to another thread.
-/

namespace SkyWalking

/-- `str(segment.related_traces[0])`. -/
def SpanContext.traceId (context : SpanContext) : Option String :=
  context.segment.relatedTraces.head?.map ID.value

/-- The call asks for the span on top of the stack: it names the component of an entry span, or the
one that was left to the callee of an exit span. -/
def Call.AsksReuse (parent : Span) : Call → Prop
  | .newLocalSpan _ => False
  | .newEntrySpan _ _ inherit => parent.kind = .Entry ∧ inherit = some parent.component
  | .newExitSpan _ _ component _ =>
      parent.kind = .Exit ∧ parent.inherit ≠ .Unknown ∧ component = some parent.inherit

/-- An exit span that was left to nobody still has `Component.Unknown` to be named. -/
def Call.MeetsDefault (parent : Span) : Call → Prop
  | .newExitSpan _ _ component _ =>
      parent.kind = .Exit ∧ parent.inherit = .Unknown ∧ component = some .Unknown
  | _ => False

/-- A span for which `Carrier.is_valid` finds everything filled in. -/
def Span.Referable (env : Env) (span : Span) : Prop :=
  env.agentName ≠ "" ∧ env.agentInstanceName ≠ "" ∧ span.op ≠ "" ∧
    ∃ peer, span.peer = some peer ∧ peer ≠ ""

/-- Between `w` and `w'` the span `span` was created in a segment of its own that continues the trace
of `parent`. The segment of `parent` keeps its span list, then and whenever `span` is entered or
left. -/
structure Follows (env : Env) (parent : Nat) (w w' : World) (span : Nat) : Prop where
  fresh : w.contexts.size ≤ (w'.span span).context
  trace : (w'.context (w'.span span).context).traceId =
    (w.context (w.span parent).context).traceId
  ref : ∃ ref, (w'.span span).refs = [ref] ∧
    ref.segmentId = (w.context (w.span parent).context).segment.segmentId.value ∧
    ref.spanId = (w.span parent).sid
  created : (w'.context (w.span parent).context).segment.spans =
    (w.context (w.span parent).context).segment.spans
  used : ∀ task queueFull actions w'', Run (ApiStep env) w' actions w'' →
    ((Span.start task span w'').context (w.span parent).context).segment.spans =
        (w''.context (w.span parent).context).segment.spans ∧
      ((Span.stop task span queueFull w'').1.context (w.span parent).context).segment.spans =
        (w''.context (w.span parent).context).segment.spans

/-- The seven fields of a carrier. -/
def Carrier.SameFields (carrier carrier' : Carrier) : Prop :=
  carrier.traceId = carrier'.traceId ∧ carrier.segmentId = carrier'.segmentId ∧
    carrier.spanId = carrier'.spanId ∧ carrier.service = carrier'.service ∧
    carrier.serviceInstance = carrier'.serviceInstance ∧ carrier.endpoint = carrier'.endpoint ∧
    carrier.clientAddress = carrier'.clientAddress

/-- The fields of a carrier are what the parts of a header decode to. -/
def Carrier.DecodedFrom (val : String) (carrier : Carrier) : Prop :=
  ∃ version traceId segmentId spanId service serviceInstance endpoint clientAddress,
    Text.split '-' val = [version, traceId, segmentId, spanId, service, serviceInstance, endpoint,
      clientAddress] ∧
    b64decode traceId = .ok carrier.traceId ∧ b64decode segmentId = .ok carrier.segmentId ∧
    carrier.spanId = .str spanId ∧ b64decode service = .ok carrier.service ∧
    b64decode serviceInstance = .ok carrier.serviceInstance ∧
    (∃ text, b64decode endpoint = .ok text ∧ carrier.endpoint = some text) ∧
    ∃ text, b64decode clientAddress = .ok text ∧ carrier.clientAddress = some text

/-- Assigning to the item returns, and all fields are taken over or none. -/
def Carrier.SetsAtOnce (carrier : Carrier) (val : String) : Prop :=
  (carrier.setVal val).2 = .ok () ∧
    ((carrier.setVal val).1.DecodedFrom val ∨ (carrier.setVal val).1.SameFields carrier)

/-- In a header of eight parts the encoded ones can be decoded. -/
def HeaderReadable (val : String) : Prop :=
  ∀ version traceId segmentId spanId service serviceInstance endpoint clientAddress,
    Text.split '-' val = [version, traceId, segmentId, spanId, service, serviceInstance, endpoint,
      clientAddress] →
    ∀ part ∈ [traceId, segmentId, service, serviceInstance, endpoint, clientAddress],
      ∃ text, b64decode part = .ok text

/-- Entry after entry is taken over, as long as the map is within its limit; what is not a decodable
pair is skipped. -/
def Correlation.accept (env : Env) : Correlation → List String → Correlation
  | dict, [] => dict
  | dict, per :: rest =>
      if env.correlationElementMaxNumber < dict.length then dict
      else
        match Text.split ':' per with
        | [key, value] =>
            match b64decode key, b64decode value with
            | .ok key, .ok value => Correlation.accept env (dict.insert key value) rest
            | _, _ => Correlation.accept env dict rest
        | _ => Correlation.accept env dict rest

/-- The entries of a header. -/
def Correlation.entries (val : String) : List String := if val = "" then [] else Text.split ',' val

/-- Assigning to the item returns, and all well-formed entries are taken over or none. -/
def Correlation.SetsAtOnce (env : Env) (dict : Correlation) (val : String) : Prop :=
  (dict.setVal env val).2 = .ok () ∧
    ((dict.setVal env val).1 = dict.accept env (Correlation.entries val) ∨
      (dict.setVal env val).1 = dict)

/-- Every pair that is reached with the map within its limit can be decoded. -/
def Correlation.EntriesReadable (env : Env) (dict : Correlation) (entries : List String) : Prop :=
  ∀ before per after key value, entries = before ++ per :: after →
    Text.split ':' per = [key, value] →
    ((dict.accept env before).length : Int) ≤ env.correlationElementMaxNumber →
    (∃ text, b64decode key = .ok text) ∧ ∃ text, b64decode value = .ok text

/-- The values of the two items of a carrier. -/
structure Headers where
  sw8 : String
  correlation : String
  deriving DecidableEq, Repr

/-- The items of `span.inject()`, as they are written into a request. -/
def Span.headers (env : Env) (span : Nat) (w : World) : Except PyError Headers :=
  match Span.inject env span w with
  | (_, .error error) => .error error
  | (w, .ok carrier) =>
      let carrier := w.carriers.get carrier
      carrier.getVal.map fun sw8 => ⟨sw8, (w.dicts.get carrier.correlation).getVal⟩

/-- A request handler: a new carrier takes the two items, and the context of the task opens an entry
span with it. -/
def serve (env : Env) (task : Nat) (answers : Answers) (sampled : Bool) (op : String)
    (headers : Headers) (w : World) : World × Except PyError Nat :=
  match receiveCarrier env headers.sw8 headers.correlation w with
  | (w, .error error) => (w, .error error)
  | (w, .ok carrier) =>
      let (w, context) := getContext env task sampled w
      SpanContext.newEntrySpan env task context answers op (some carrier) none w

/-- An exit span without gaps, with a correlation map that a service with the settings `env'` has room
for. -/
structure Sendable (env env' : Env) (w : World) (span : Nat) : Prop where
  cls : (w.span span).cls = .ExitSpan
  referable : (w.span span).Referable env
  room : ((w.dicts.get (w.context (w.span span).context).correlation).length : Int) ≤
    env'.correlationElementMaxNumber + 1

/-- What the entry span `entry` of the next service has of the exit span `span`. -/
structure Continues (env : Env) (w : World) (span : Nat) (w' : World) (entry : Nat)
    (traceId : String) : Prop where
  cls : (w'.span entry).cls = .EntrySpan
  traceId_eq : (w.context (w.span span).context).traceId = some traceId
  traces : (w'.context (w'.span entry).context).segment.relatedTraces = [⟨.ID, traceId⟩]
  refs : (w'.span entry).refs =
    [{ refType := "CrossProcess"
       traceId := traceId
       segmentId := (w.context (w.span span).context).segment.segmentId.value
       spanId := (w.span span).sid
       service := env.agentName
       serviceInstance := env.agentInstanceName
       endpoint := some (w.span span).op
       clientAddress := (w.span span).peer }]
  correlation : w'.dicts.get (w'.context (w'.span entry).context).correlation =
    w.dicts.get (w.context (w.span span).context).correlation

/-- A service that takes part in a chain of requests, at some moment after its entry span was opened,
and the context of that span. -/
structure Service where
  env : Env
  world : World
  context : Nat

/-- The service can be in this state, and it has a context there. -/
structure Service.Valid (service : Service) : Prop where
  reachable : Reachable service.env service.world
  context_lt : service.context < service.world.contexts.size

/-- A span of the context sends a request to a service in which the handling task has no span yet.
After the entry span was opened that service goes on in any way. -/
inductive Service.Forwards (answers : Answers) (sampled : Bool) : Service → Service → Prop where
  | request (service : Service) (env : Env) (span : Nat) (headers : Headers) (task : Nat)
      (op : String) (w w' w'' : World) (entry : Nat) (actions : List ApiAction) :
      span < service.world.spans.size →
      (service.world.span span).context = service.context →
      Sendable service.env env service.world span ∨ (service.world.span span).cls = .NoopSpan →
      Span.headers service.env span service.world = .ok headers →
      Reachable env w →
      w.view task = [] →
      serve env task answers sampled op headers w = (w', .ok entry) →
      Run (ApiStep env) w' actions w'' →
      Service.Forwards answers sampled service ⟨env, w'', (w'.span entry).context⟩

/-- `get_context().capture()`. -/
def captureContext (env : Env) (task : Nat) (sampled : Bool) (w : World) : World × Option Nat :=
  let (w, context) := getContext env task sampled w
  SpanContext.capture task context w

/-- `_RunnableWrapper`, with the snapshot taken at decoration. -/
structure RunnableWrapper where
  op : String
  layer : Layer
  component : Component
  tags : List Tag
  snapshot : Option Nat

namespace RunnableWrapper

/-- `_RunnableWrapper(func, op, layer, component, tags)`. -/
def init (env : Env) (task : Nat) (sampled : Bool) (op : String) (layer : Layer)
    (component : Component) (tags : List Tag) (w : World) : World × RunnableWrapper :=
  let (w, snapshot) := captureContext env task sampled w
  (w, ⟨op, layer, component, tags, snapshot⟩)

/-- `for tag in tags: span.tag(tag)`. -/
def tagAll (span : Nat) : List Tag → World → World × Except PyError Unit
  | [], w => (w, .ok ())
  | tag :: rest, w =>
      match Span.tag tag span w with
      | (w, .error error) => (w, .error error)
      | (w, .ok ()) => tagAll span rest w

/-- `if snapshot is not None: context.continued(snapshot)`. -/
def continuedIfAny (env : Env) (task context : Nat) (snapshot : Option Nat) (w : World) :
    World × Except PyError Unit :=
  match snapshot with
  | none => (w, .ok ())
  | some snapshot => SpanContext.continued env task context snapshot w

/-- The attributes that the wrapper gives to its span. -/
def decorate (wrapper : RunnableWrapper) (span : Nat) (w : World) : World × Except PyError Unit :=
  let w := w.modifySpan span fun span => { span with layer := wrapper.layer }
  let w := w.modifySpan span fun span => { span with component := wrapper.component }
  tagAll span wrapper.tags w

/-- The body that `__call__` and the wrapper of `continue_tracing` have in common, up to the call of the
function: the span, or what was raised inside its block. -/
def enter (env : Env) (task : Nat) (answers : Answers) (sampled : Bool)
    (wrapper : RunnableWrapper) (snapshot : Option Nat) (w : World) : World × Except PyError Nat :=
  let (w, context) := getContext env task sampled w
  match SpanContext.newLocalSpan env task context answers wrapper.op w with
  | (w, .error error) => (w, .error error)
  | (w, .ok span) =>
      match continuedIfAny env task context snapshot (Span.start task span w) with
      | (w, .error error) => (w, .error error)
      | (w, .ok ()) =>
          let (w, outcome) := decorate wrapper span w
          (w, outcome.map fun _ => span)

/-- `__call__`, up to the call of the function. -/
def call (env : Env) (task : Nat) (answers : Answers) (sampled : Bool) (wrapper : RunnableWrapper)
    (w : World) : World × Except PyError Nat :=
  wrapper.enter env task answers sampled wrapper.snapshot w

/-- `continue_tracing()`: the snapshot that the returned wrapper holds. -/
def continueTracing (env : Env) (task : Nat) (sampled : Bool) (w : World) : World × Option Nat :=
  captureContext env task sampled w

/-- `_continued_wrapper`, up to the call of the function. -/
def continuedWrapper (env : Env) (task : Nat) (answers : Answers) (sampled : Bool)
    (wrapper : RunnableWrapper) (snapshot : Option Nat) (w : World) : World × Except PyError Nat :=
  wrapper.enter env task answers sampled snapshot w

end RunnableWrapper

/-- The call brings a trace into a context that exists. -/
def ApiAction.Relates (w : World) (context : Nat) (action : ApiAction) : Prop :=
  (∃ carrier, action.Extracts w context carrier) ∨
    ∃ task snapshot, action = .continued task context snapshot

/-- A context does not take over the map of a carrier while another context holds that very map. -/
def ApiAction.KeepsApart (w : World) (context other : Nat) (action : ApiAction) : Prop :=
  ∀ carrier, action.Extracts w context carrier →
    (w.carriers.get carrier).correlation ≠ (w.context other).correlation

/-- The body that continues `snapshot` in the thread of `task`, started by either entry point of the
wrapper in `w`, has called the function in `w'`. -/
def RunnableWrapper.Continued (env : Env) (task : Nat) (wrapper : RunnableWrapper) (snapshot : Nat)
    (w w' : World) : Prop :=
  w' = (wrapper.continuedWrapper env task ⟨false, false⟩ true (some snapshot) w).1 ∨
    wrapper.snapshot = some snapshot ∧ w' = (wrapper.call env task ⟨false, false⟩ true w).1

/-- What a thread that was continued in `w'` has of the span on top of the stack of `task` in `w`, when
the snapshot was taken. -/
structure ContinuesThread (env : Env) (w : World) (task top : Nat) (w' : World) (root : Nat)
    (traceId : String) : Prop where
  traceId_eq : (w.context (w.span top).context).traceId = some traceId
  traces : (w'.context (w'.span root).context).segment.relatedTraces = [⟨.ID, traceId⟩]
  refs : ∃ bottom, (w.view task).head? = some bottom ∧ (w'.span root).refs =
    [{ refType := "CrossThread"
       traceId := traceId
       segmentId := (w.context (w.span top).context).segment.segmentId.value
       spanId := (w.span top).sid
       service := env.agentName
       serviceInstance := env.agentInstanceName
       endpoint := some (w.span bottom).op
       clientAddress := some "" }]
  correlation : w'.dicts.get (w'.context (w'.span root).context).correlation =
    w.dicts.get (w.context (w.span top).context).correlation

/-- As long as neither of two contexts takes over a map that the other one holds, neither sees what is
put into the map of the other. Other carriers may be extracted, those of received headers among them. -/
def Separate (env : Env) (w : World) (left right : Nat) : Prop :=
  ∀ actions w', Run (Guarded
      (fun w action => action.KeepsApart w left right ∧ action.KeepsApart w right left)
      (ApiStep env)) w actions w' →
    ∀ key value name,
      SpanContext.getCorrelation left name (SpanContext.putCorrelation env right key value w') =
          SpanContext.getCorrelation left name w' ∧
        SpanContext.getCorrelation right name (SpanContext.putCorrelation env left key value w') =
          SpanContext.getCorrelation right name w'

/-- The contexts of a tree of threads, those of them that have captured, and the snapshots taken by
them. -/
structure ThreadTree where
  world : World
  members : List Nat
  captured : List Nat
  snapshots : List Nat

/-- The steps of a process in which threads are started from a root context. A context that has captured
takes up no further trace; everything else may happen in between. -/
inductive ThreadTree.Step (env : Env) : ThreadTree → ThreadTree → Prop where
  | api (tree : ThreadTree) (action : ApiAction) :
      action.Enabled tree.world → (∀ c ∈ tree.captured, ¬ action.Relates tree.world c) →
      ThreadTree.Step env tree { tree with world := action.run env tree.world }
  | capture (tree : ThreadTree) (task top snapshot : Nat) (sampled : Bool) (w' : World) :
      (tree.world.view task).getLast? = some top →
      (tree.world.span top).context ∈ tree.members →
      captureContext env task sampled tree.world = (w', some snapshot) →
      ThreadTree.Step env tree
        { tree with
          world := w'
          captured := (tree.world.span top).context :: tree.captured
          snapshots := snapshot :: tree.snapshots }
  | run (tree : ThreadTree) (task snapshot : Nat) (wrapper : RunnableWrapper) :
      tree.world.view task = [] → snapshot ∈ tree.snapshots →
      ThreadTree.Step env tree
        { tree with
          world := (wrapper.continuedWrapper env task ⟨false, false⟩ true (some snapshot) tree.world).1
          members := (getContext env task true tree.world).2 :: tree.members }

/-- A call of the wrapper from beginning to end, with a function that leaves spans and contexts alone
and `raised` an exception or not. An exception of the wrapper itself is one of `Exception`. -/
def RunnableWrapper.run (env : Env) (task : Nat) (answers : BlockAnswers)
    (wrapper : RunnableWrapper) (snapshot : Option Nat) (raised : Option Raised) (w : World) :
    World :=
  match openBlock env task answers (.newLocalSpan wrapper.op) w with
  | (w, .error _) => w
  | (_, .ok span) =>
      let (w, outcome) := wrapper.enter env task answers.toAnswers answers.sampled snapshot w
      let raised := match outcome with
        | .error _ => some .exception
        | .ok _ => raised
      (Span.stop task span answers.stopFull (noteRaised env answers span raised w)).1

/-- The trace ids of a context, the references of its spans and what its map holds are the same in
both worlds. -/
structure LeavesAlone (context : Nat) (w w' : World) : Prop where
  traces : (w'.context context).segment.relatedTraces = (w.context context).segment.relatedTraces
  refs : ∀ s < w.spans.size, (w.span s).context = context → (w'.span s).refs = (w.span s).refs
  correlation : w'.dicts.get (w'.context context).correlation =
    w.dicts.get (w.context context).correlation

end SkyWalking
