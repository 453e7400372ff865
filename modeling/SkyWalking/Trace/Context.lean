import SkyWalking.Trace.World

/-!
# Contexts and spans

`trace/context.py`, `trace/span.py`, `trace/snapshot.py` and `SegmentRef.build_ref`. An operation that
can raise returns the world it leaves behind next to its outcome. The answers of the ignore pattern,
of the reporter queue and of the sampler come from outside and are arguments.
-/

namespace SkyWalking

/-- What `config.RE_IGNORE_PATH.match` and `agent.is_segment_queue_full` answer to one call. -/
structure Answers where
  ignored : Bool
  queueFull : Bool
  deriving DecidableEq, Repr

namespace SpanContext

/-- `SpanContext()`, with its `Segment()`. -/
def new (env : Env) (w : World) : World × Nat :=
  ({ w with
      dicts := w.dicts.alloc []
      contexts := w.contexts.alloc
        { noop := false
          segment :=
            { segmentId := ⟨.ID, env.uuid1 w.uuids⟩
              spans := []
              relatedTraces := [⟨.NewID, env.uuid1 (w.uuids + 1)⟩]
              timestamp := millis w.now
              isSizeLimited := false }
          sid := -1
          correlation := w.dicts.size
          nspans := 0
          createTime := millis w.now
          primaryEndpoint := none }
      uuids := w.uuids + 2 },
    w.contexts.size)

/-- `NoopContext()`, with its `NoopSegment()`. -/
def newNoop (w : World) : World × Nat :=
  ({ w with
      dicts := w.dicts.alloc []
      contexts := w.contexts.alloc
        { noop := true
          segment := ⟨⟨.NewNoopID, ""⟩, [], [⟨.NewNoopID, ""⟩], 0, false⟩
          sid := -1
          correlation := w.dicts.size
          nspans := 0
          createTime := 0
          primaryEndpoint := none } },
    w.contexts.size)

/-- `peek(raise_if_none=False)`. -/
def peek (task : Nat) (w : World) : World × Option Nat :=
  (w.spansGet task, (w.view task).getLast?)

end SpanContext

/-- `get_context()`; `sampled` is what `try_sampling` answers, if it is asked. -/
def getContext (env : Env) (task : Nat) (sampled : Bool) (w : World) : World × Nat :=
  let w' := w.spansGet task
  match (w.view task).getLast? with
  | some span => (w', (w.span span).context)
  | none => if sampled then SpanContext.new env w' else SpanContext.newNoop w'

namespace Span

def alloc (span : Span) (w : World) : World × Nat :=
  ({ w with spans := w.spans.alloc span }, w.spans.size)

/-- `NoopSpan(context)`. -/
def newNoop (context : Nat) (w : World) : World × Nat :=
  alloc (Span.create .NoopSpan context (-1) (-1) "" none none) w

/-- `ID(raw_id)`: an empty text is replaced by a new identifier. -/
def idOf (env : Env) (rawId : String) (w : World) : World × ID :=
  if rawId = "" then ({ w with uuids := w.uuids + 1 }, ⟨.ID, env.uuid1 w.uuids⟩)
  else (w, ⟨.ID, rawId⟩)

/-- `Span.extract` for a carrier other than `None`. The trace id and the correlation map are taken
over before the carrier is looked at. -/
def extractReal (env : Env) (span : Nat) (carrier : Carrier) (w : World) :
    World × Except PyError Unit :=
  let (w, traceId) := idOf env carrier.traceId w
  let w := w.modifyContext (w.span span).context (SpanContext.relate traceId)
  let w := w.modifyContext (w.span span).context (SpanContext.withCorrelation carrier.correlation)
  match carrier.isValid with
  | .error error => (w, .error error)
  | .ok false => (w, .ok ())
  | .ok true =>
      match SegmentRef.ofCarrier carrier "CrossProcess" with
      | .error error => (w, .error error)
      | .ok ref =>
          if ref ∈ (w.span span).refs then (w, .ok ())
          else (w.modifySpan span (Span.addRef ref), .ok ())

/-- `extract`, which a `NoopSpan` overrides. -/
def extract (env : Env) (span : Nat) (carrier : Carrier) (w : World) : World × Except PyError Unit :=
  if (w.span span).cls = .NoopSpan then (w, .ok ()) else extractReal env span carrier w

/-- The carrier that names a span, its service and its correlation map: the arguments with which
`ExitSpan.inject` and the finished-parent branch of `new_span` call `Carrier`. -/
def carrierOf (env : Env) (span : Nat) (w : World) : Carrier :=
  let s := w.span span
  let context := w.context s.context
  { val := none
    traceId := (context.segment.relatedTraces.head?.map ID.value).getD ""
    segmentId := context.segment.segmentId.value
    spanId := .str (toString s.sid)
    service := env.agentName
    serviceInstance := env.agentInstanceName
    endpoint := some s.op
    clientAddress := s.peer
    correlation := context.correlation }

/-- `inject`: only exit spans carry a trace on, a noop span sends an empty carrier. -/
def inject (env : Env) (span : Nat) (w : World) : World × Except PyError Nat :=
  match (w.span span).cls with
  | .ExitSpan =>
      ({ w with carriers := w.carriers.alloc (carrierOf env span w) }, .ok w.carriers.size)
  | .NoopSpan =>
      ({ w with
          dicts := w.dicts.alloc []
          carriers := w.carriers.alloc (Carrier.fresh w.dicts.size) }, .ok w.carriers.size)
  | _ => (w, .error .illegalStateError)

end Span

/-- `Carrier()` of a request handler, with the two received items assigned in the order in which it
iterates over them. -/
def receiveCarrier (env : Env) (sw8 correlation : String) (w : World) :
    World × Except PyError Nat :=
  let (dict, outcome) := Correlation.setVal env [] correlation
  let (carrier, outcome') := match outcome with
    | .error error => (Carrier.fresh w.dicts.size, Except.error error)
    | .ok () => (Carrier.fresh w.dicts.size).setVal sw8
  ({ w with
      dicts := w.dicts.alloc dict
      carriers := w.carriers.alloc carrier },
    outcome'.map fun _ => w.carriers.size)

namespace SpanContext

/-- The condition of `ignore_check`. -/
def isIgnored (answers : Answers) (carrier : Option Carrier) : Except PyError Bool :=
  if answers.ignored || answers.queueFull then .ok true
  else match carrier with
    | none => .ok false
    | some carrier => carrier.isSuppressed

def ignoreCheck (answers : Answers) (carrier : Option Carrier) (w : World) :
    World × Except PyError (Option Nat) :=
  match isIgnored answers carrier with
  | .error error => (w, .error error)
  | .ok false => (w, .ok none)
  | .ok true =>
      let (w, context) := newNoop w
      let (w, span) := Span.newNoop context w
      (w, .ok (some span))

/-- `parent and not parent.depth`. -/
def isFinished (parent : Option Nat) (w : World) : Bool :=
  match parent with
  | none => false
  | some parent => (w.span parent).depth = 0

/-- `new_span`: under a finished parent the span starts a segment of its own that refers to it. -/
def newSpan (env : Env) (self : Nat) (parent : Option Nat) (cls : SpanClass) (op : String)
    (peer : Option String) (component : Option Component) (w : World) :
    World × Except PyError Nat :=
  let finished := isFinished parent w
  let (w, context) := if finished then new env w else (w, self)
  let w := w.modifyContext context SpanContext.nextSid
  let sid := (w.context context).sid
  let pid := match parent with
    | none => -1
    | some parent => if finished then -1 else (w.span parent).sid
  let (w, span) := Span.alloc (Span.create cls context sid pid op peer component) w
  match parent with
  | none => (w, .ok span)
  | some parent =>
      if finished then
        let (w, outcome) := Span.extractReal env span (Span.carrierOf env parent w) w
        (w, outcome.map fun _ => span)
      else (w, .ok span)

/-- `new_local_span`, which `NoopContext` overrides. -/
def newLocalSpan (env : Env) (task self : Nat) (answers : Answers) (op : String) (w : World) :
    World × Except PyError Nat :=
  if (w.context self).noop then
    let (w, span) := Span.newNoop self w
    (w, .ok span)
  else
    match ignoreCheck answers none w with
    | (w, .error error) => (w, .error error)
    | (w, .ok (some span)) => (w, .ok span)
    | (w, .ok none) =>
        let (w, parent) := peek task w
        newSpan env self parent .Span op none none w

/-- The reuse test of `new_entry_span`. -/
def reusesEntry (parent : Option Nat) (inherit : Option Component) (w : World) : Bool :=
  match parent with
  | none => false
  | some parent => (w.span parent).kind = .Entry ∧ inherit = some (w.span parent).component

/-- `new_entry_span` gets to the creation of a span. -/
def MakesEntry (task self : Nat) (answers : Answers) (carrier : Option Nat)
    (inherit : Option Component) (w : World) : Prop :=
  (w.context self).noop = false ∧ isIgnored answers (carrier.map w.carriers.get) = .ok false ∧
    reusesEntry (w.view task).getLast? inherit w = false

/-- `new_entry_span`, which `NoopContext` overrides. The profiling calls leave spans and contexts as
they are and are left out. -/
def newEntrySpan (env : Env) (task self : Nat) (answers : Answers) (op : String)
    (carrier : Option Nat) (inherit : Option Component) (w : World) : World × Except PyError Nat :=
  if (w.context self).noop then
    let (w, span) := Span.newNoop self w
    (w, .ok span)
  else
    match ignoreCheck answers (carrier.map w.carriers.get) w with
    | (w, .error error) => (w, .error error)
    | (w, .ok (some span)) => (w, .ok span)
    | (w, .ok none) =>
        let (w, parent) := peek task w
        if reusesEntry parent inherit w then
          let parent := parent.getD 0
          (w.modifySpan parent fun span => { span with op := op }, .ok parent)
        else
          match newSpan env self parent .EntrySpan op none none w with
          | (w, .error error) => (w, .error error)
          | (w, .ok span) =>
              match carrier with
              | none => (w, .ok span)
              | some carrier =>
                  match (w.carriers.get carrier).isValid with
                  | .error error => (w, .error error)
                  | .ok false => (w, .ok span)
                  | .ok true =>
                      let (w, outcome) := Span.extractReal env span (w.carriers.get carrier) w
                      (w, outcome.map fun _ => span)

/-- The reuse test of `new_exit_span`: it looks at the `inherit` attribute that the parent carries. -/
def reusesExit (parent : Option Nat) (component : Option Component) (w : World) : Bool :=
  match parent with
  | none => false
  | some parent => (w.span parent).kind = .Exit ∧ component = some (w.span parent).inherit

/-- `new_exit_span`, which `NoopContext` overrides. -/
def newExitSpan (env : Env) (task self : Nat) (answers : Answers) (op : String)
    (peer : Option String) (component inherit : Option Component) (w : World) :
    World × Except PyError Nat :=
  if (w.context self).noop then
    let (w, span) := Span.newNoop self w
    (w, .ok span)
  else
    match ignoreCheck answers none w with
    | (w, .error error) => (w, .error error)
    | (w, .ok (some span)) => (w, .ok span)
    | (w, .ok none) =>
        let (w, parent) := peek task w
        let (w, outcome) :=
          if reusesExit parent component w then
            let parent := parent.getD 0
            (w.modifySpan parent fun span =>
              { span with op := op, peer := peer, component := component.getD .Unknown },
              Except.ok parent)
          else newSpan env self parent .ExitSpan op peer component w
        match outcome with
        | .error error => (w, .error error)
        | .ok span =>
            match inherit with
            | none => (w, .ok span)
            | some inherit => (w.modifySpan span fun span => { span with inherit := inherit }, .ok span)

end SpanContext

/-- A request for a span, with its arguments; carriers are given by address. -/
inductive Call where
  | newLocalSpan (op : String)
  | newEntrySpan (op : String) (carrier : Option Nat) (inherit : Option Component)
  | newExitSpan (op : String) (peer : Option String) (component inherit : Option Component)
  deriving DecidableEq, Repr

/-- The carrier of an entry call. -/
def Call.carrier : Call → Option Nat
  | .newEntrySpan _ carrier _ => carrier
  | _ => none

def Call.run (env : Env) (task self : Nat) (answers : Answers) (w : World) :
    Call → World × Except PyError Nat
  | .newLocalSpan op => SpanContext.newLocalSpan env task self answers op w
  | .newEntrySpan op carrier inherit =>
      SpanContext.newEntrySpan env task self answers op carrier inherit w
  | .newExitSpan op peer component inherit =>
      SpanContext.newExitSpan env task self answers op peer component inherit w

namespace SpanContext

/-- `PrimaryEndpoint.set_primary_endpoint`, and its creation by the first span. -/
def primaryEndpointAfter (span : Nat) (w : World) : Option Nat → Option Nat
  | none => some span
  | some first =>
      if (w.span first).kind ≠ .Entry ∧ (w.span span).kind = .Entry then some span else some first

def start (task self span : Nat) (w : World) : World :=
  let w := w.modifyContext self countUp
  let w := w.spansDup task
  if span ∈ w.view task then w
  else
    let w := w.modifyList task (· ++ [span])
    w.modifyContext self (withPrimary (primaryEndpointAfter span w (w.context self).primaryEndpoint))

end SpanContext

def Span.finish (context span : Nat) (w : World) : World :=
  let w := w.modifySpan span (Span.endedAt w.now)
  w.modifyContext context (SpanContext.archiveSpan span)

namespace SpanContext

/-- `SpanContext.stop` and `NoopContext.stop`; `queueFull` is what the reporter queue answers when the
last open span closes. -/
def stop (task self span : Nat) (queueFull : Bool) (w : World) : World × Bool :=
  if (w.context self).noop then
    let w := w.spansDup task
    let w := w.modifyList task (·.erase span)
    let w := w.modifyContext self countDown
    (w, (w.context self).nspans = 0)
  else
    let w := w.spansDup task
    let w := Span.finish self span w
    let w := w.modifyList task (·.erase span)
    let w := w.modifyContext self countDown
    if (w.context self).nspans = 0 then
      let w := w.modifyContext self (sizeLimited queueFull)
      ({ w with archived := w.archived ++ [self] }, true)
    else (w, false)

end SpanContext

namespace Span

/-- `start` of `Span` and of `EntrySpan`. -/
def start (task span : Nat) (w : World) : World :=
  let w := w.modifySpan span entered
  let w :=
    if (w.span span).depth = 1 then
      let w := w.modifySpan span (startedAt w.now)
      SpanContext.start task (w.span span).context span w
    else w
  if (w.span span).cls = .EntrySpan then w.modifySpan span restarted else w

def stop (task span : Nat) (queueFull : Bool) (w : World) : World × Bool :=
  let w := w.modifySpan span left
  if (w.span span).depth = 0 then SpanContext.stop task (w.span span).context span queueFull w
  else (w, false)

/-- `raised`; the time of a log defaults to the moment the package was imported. -/
def raised (env : Env) (traceback : String) (span : Nat) (w : World) : World :=
  w.modifySpan span fun span =>
    { span with
      errorOccurred := true
      logs := [⟨env.importTime, [⟨"Traceback", traceback⟩]⟩] }

/-- `log(ex)`. -/
def log (env : Env) (text : String) (span : Nat) (w : World) : World :=
  w.modifySpan span fun span =>
    { span with
      errorOccurred := true
      logs := span.logs ++ [⟨env.importTime, [⟨"Traceback", text⟩]⟩] }

/-- `tags[key] = entry`: an existing key keeps its place. -/
def setTag (tags : List (String × TagEntry)) (key : String) (entry : TagEntry) :
    List (String × TagEntry) :=
  if key ∈ tags.map Prod.fst then
    tags.map fun old => if old.1 = key then (key, entry) else old
  else tags ++ [(key, entry)]

/-- The dictionary after `tag(tag)`; an overridable tag cannot be appended to. -/
def tagged (tags : List (String × TagEntry)) (tag : Tag) :
    Except PyError (List (String × TagEntry)) :=
  if tag.overridable then .ok (setTag tags tag.key (.one tag))
  else
    match tags.lookup tag.key with
    | none => .ok (setTag tags tag.key (.many [tag]))
    | some (.many entries) => .ok (setTag tags tag.key (.many (entries ++ [tag])))
    | some (.one _) => .error .attributeError

def tag (tag : Tag) (span : Nat) (w : World) : World × Except PyError Unit :=
  match tagged (w.span span).tags tag with
  | .error error => (w, .error error)
  | .ok tags => (w.modifySpan span fun span => { span with tags := tags }, .ok ())

def iterTags (span : Span) : List Tag :=
  span.tags.flatMap fun entry => match entry.2 with
    | .one tag => [tag]
    | .many tags => tags

end Span

namespace SpanContext

def getCorrelation (self : Nat) (key : String) (w : World) : Option String :=
  (w.dicts.get (w.context self).correlation).lookup key

/-- What `put_correlation` makes of the map; a key of `None` changes nothing. -/
def putDict (env : Env) (key value : Option String) (dict : Correlation) : Correlation :=
  match key, value with
  | none, _ => dict
  | some key, none => dict.remove key
  | some key, some value =>
      if env.correlationValueMaxLength < value.length then dict
      else if env.correlationElementMaxNumber < dict.length then dict
      else dict.insert key value

def putCorrelation (env : Env) (self : Nat) (key value : Option String) (w : World) : World :=
  { w with dicts := w.dicts.modify (w.context self).correlation (putDict env key value) }

/-- `Snapshot(...)`: the map is copied. -/
def newSnapshot (snapshot : Snapshot) (correlation : Correlation) (w : World) : World × Nat :=
  ({ w with
      dicts := w.dicts.alloc correlation
      snapshots := w.snapshots.alloc { snapshot with correlation := w.dicts.size } },
    w.snapshots.size)

/-- `capture`; `None` without an active span. -/
def capture (task self : Nat) (w : World) : World × Option Nat :=
  let context := w.context self
  let correlation := w.dicts.get context.correlation
  if context.noop then
    let (w, snapshot) := newSnapshot ⟨none, -1, none, none, 0⟩ correlation w
    (w, some snapshot)
  else
    let w' := w.spansGet task
    match w.view task with
    | [] => (w', none)
    | bottom :: rest =>
        let top := (bottom :: rest).getLast (by simp)
        let (w, snapshot) := newSnapshot
          { segmentId := some context.segment.segmentId.value
            spanId := (w.span top).sid
            traceId := context.segment.relatedTraces.head?
            endpoint := some (w.span bottom).op
            correlation := 0 } correlation w'
        (w, some snapshot)

/-- `_correlation.update(snapshot.correlation)`. -/
def updateCorrelation (self : Nat) (snapshot : Snapshot) (w : World) : World :=
  let other := w.dicts.get snapshot.correlation
  { w with dicts := w.dicts.modify (w.context self).correlation fun dict => dict.update other }

/-- `Snapshot.is_valid`. -/
def isValidSnapshot (snapshot : Snapshot) : Bool :=
  snapshot.segmentId.isSome && decide (-1 < snapshot.spanId) && snapshot.traceId.isSome

/-- `Snapshot.is_from_current`: it takes another snapshot of the current context. -/
def isFromCurrent (task self : Nat) (snapshot : Snapshot) (w : World) :
    World × Except PyError Bool :=
  match snapshot.segmentId with
  | none => (w, .ok false)
  | some segmentId =>
      match capture task self w with
      | (w, none) => (w, .error .attributeError)
      | (w, some current) => (w, .ok (some segmentId = (w.snapshots.get current).segmentId))

def buildRef (env : Env) (snapshot : Snapshot) : Except PyError SegmentRef :=
  SegmentRef.ofCarrier
    { Carrier.fresh 0 with
      traceId := (snapshot.traceId.map ID.value).getD "None"
      segmentId := snapshot.segmentId.getD "None"
      endpoint := snapshot.endpoint
      spanId := .int snapshot.spanId
      service := env.agentName
      serviceInstance := env.agentInstanceName } "CrossThread"

/-- `continued`, for a snapshot other than `None`. -/
def continued (env : Env) (task self snapshot : Nat) (w : World) : World × Except PyError Unit :=
  let snap := w.snapshots.get snapshot
  if (w.context self).noop then (updateCorrelation self snap w, .ok ())
  else
    match isFromCurrent task self snap w with
    | (w, .error error) => (w, .error error)
    | (w, .ok true) => (w, .ok ())
    | (w, .ok false) =>
        if isValidSnapshot snap then
          match buildRef env snap with
          | .error error => (w, .error error)
          | .ok ref =>
              match (w.view task).getLast? with
              | none => (w, .error .attributeError)
              | some span =>
                  let w := w.modifySpan span (Span.addRef ref)
                  let (w, traceId) := Span.idOf env ref.traceId w
                  let w := w.modifyContext self (relate traceId)
                  (updateCorrelation self snap w, .ok ())
        else (w, .ok ())

end SpanContext

end SkyWalking
