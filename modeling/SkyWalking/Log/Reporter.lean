import SkyWalking.Trace.Fleet
import SkyWalking.Utils.Filter

/-!
# Reported logs

The handler that `log/sw_logging.py` puts around `Logger.handle` and the sink of the loguru plugin. Both look
up the span that their task is in and send its place along with the text.
-/

namespace SkyWalking

/-- `round`: halves go to the even neighbour. -/
def roundHalfEven (number : ℚ) : Int :=
  let low := ⌊number⌋
  if number - low < 1 / 2 then low
  else if 1 / 2 < number - low then low + 1
  else if low % 2 = 0 then low
  else low + 1

structure TraceContext where
  traceId : String
  traceSegmentId : String
  spanId : Int
  deriving DecidableEq

/-- A field that is not set has the default of its type. -/
structure LogData where
  timestamp : Int
  service : String
  serviceInstance : String
  endpoint : String
  text : String
  tags : List (String × String)
  traceContext : Option TraceContext
  deriving DecidableEq

/-- A record of the standard library: `msg` and `args` as texts, and what `traceback.format_exc` makes of the
exception, if there is one. -/
structure LogRecord where
  name : String
  levelno : Int
  levelname : String
  threadName : String
  msg : String
  message : String
  args : List String
  excInfo : Option String
  created : ℚ

/-- The settings of the log reporter. `format` is the formatter of the standard library with the layout; it is
given the `tid` that the handler has put on the record. -/
structure LogReporter where
  level : Int
  layout : String
  formatted : Bool
  ignoreFilter : Bool
  safeMode : Bool
  format : LogRecord → Option String → String

namespace LogReporter

def swFilter (reporter : LogReporter) (target : String) : String :=
  String.ofList (SkyWalking.swFilter reporter.safeMode target.toList)

def transform (reporter : LogReporter) (record : LogRecord) (tid : Option String) : String :=
  if reporter.formatted then
    if reporter.layout ≠ "" then reporter.format record tid
    else match record.excInfo with
      | some traceback => record.message ++ "\n" ++ reporter.swFilter traceback
      | none => record.message
  else record.msg

def buildLogTags (reporter : LogReporter) (record : LogRecord) : List (String × String) :=
  let coreTags := [("level", record.levelname), ("logger", record.name), ("thread", record.threadName)]
  if reporter.formatted then coreTags
  else
    let arguments := record.args.mapIdx fun i arg => ("argument." ++ toString i, arg)
    let exception := match record.excInfo with
      | some traceback => [("exception", reporter.swFilter traceback)]
      | none => []
    coreTags ++ arguments ++ exception

end LogReporter

/-- Where a log is from: the context of the task, the place of its active span if that has a number, and the
primary endpoint of the context. -/
structure LogOrigin where
  context : Nat
  traceContext : Option TraceContext
  endpoint : String

/-- What both handlers do between `get_context()` and the assignment of the trace context. -/
def logOrigin (env : Env) (task : Nat) (sampled : Bool) (w : World) : World × LogOrigin :=
  let (w, context) := getContext env task sampled w
  let (w, active) := SpanContext.peek task w
  match active with
  | none => (w, ⟨context, none, ""⟩)
  | some span =>
      let endpoint := match (w.context context).primaryEndpoint with
        | some first => (w.span first).op
        | none => ""
      let traceContext :=
        if (w.span span).sid ≠ -1 then
          some
            { traceId := (w.context context).traceId.getD ""
              traceSegmentId := (w.context context).segment.segmentId.value
              spanId := (w.span span).sid }
        else none
      (w, ⟨context, traceContext, endpoint⟩)

/-- Loggers of the agent itself. -/
def internalLoggers : List String := ["skywalking", "skywalking-cli", "skywalking-loader"]

/-- `_sw_handle` after the original handler has returned: `disabled` is the state of the logger, `passes` the
answer of its filter. The record that is handed to `archive_log`, if there is one. -/
def swHandle (env : Env) (reporter : LogReporter) (task : Nat) (sampled disabled passes : Bool)
    (record : LogRecord) (w : World) : World × Option LogData :=
  if disabled then (w, none)
  else if record.name ∈ internalLoggers then (w, none)
  else if record.levelno < reporter.level then (w, none)
  else if !reporter.ignoreFilter && !passes then (w, none)
  else
    let (w, origin) := logOrigin env task sampled w
    let tid :=
      if "%(tid)s".toList <:+: reporter.layout.toList then (w.context origin.context).traceId else none
    (w, some
      { timestamp := roundHalfEven (record.created * 1000)
        service := env.agentName
        serviceInstance := env.agentInstanceName
        endpoint := origin.endpoint
        text := reporter.swFilter (reporter.transform record tid)
        tags := reporter.buildLogTags record
        traceContext := origin.traceContext })

/-- The fields of a record of loguru that are read; `exception` is its formatted stack trace. -/
structure LoguruRecord where
  levelNo : Int
  levelName : String
  threadName : String
  message : String
  exception : Option String
  time : ℚ

/-- `_sw_sink`. -/
def swSink (env : Env) (reporter : LogReporter) (task : Nat) (sampled : Bool)
    (record : Option LoguruRecord) (w : World) : World × Option LogData :=
  match record with
  | none => (w, none)
  | some record =>
      if record.levelNo < reporter.level then (w, none)
      else
        let coreTags := [("level", record.levelName), ("logger", "loguru"), ("thread", record.threadName)]
        let exception := match record.exception with
          | some stackTrace => [("exception", reporter.swFilter stackTrace)]
          | none => []
        let (w, origin) := logOrigin env task sampled w
        (w, some
          { timestamp := roundHalfEven (record.time * 1000)
            service := env.agentName
            serviceInstance := env.agentInstanceName
            endpoint := origin.endpoint
            text := reporter.swFilter record.message
            tags := coreTags ++ exception
            traceContext := origin.traceContext })

/-- A log call in a process, by a logger of the standard library or by loguru. -/
inductive LogCall where
  | logging (disabled passes : Bool) (record : LogRecord)
  | loguru (record : Option LoguruRecord)

def LogCall.run (env : Env) (reporter : LogReporter) (task : Nat) (sampled : Bool) (w : World) :
    LogCall → World × Option LogData
  | .logging disabled passes record => swHandle env reporter task sampled disabled passes record w
  | .loguru record => swSink env reporter task sampled record w

inductive LoggedAction where
  | call (action : FleetAction)
  | log (process task : Nat) (sampled : Bool) (call : LogCall)

/-- `logs` records the calls of `agent.archive_log`. -/
structure LoggedFleet where
  fleet : Fleet
  logs : List LogData

/-- Somebody is inside the span, or it is recorded in its segment. -/
def World.Entered (w : World) (s : Nat) : Prop :=
  0 < (w.span s).depth ∨ s ∈ w.recorded (w.span s).context

namespace LoggedFleet

def init : LoggedFleet := ⟨.init, []⟩

/-- A log call in a process. -/
def log (envs : Nat → Env) (reporters : Nat → LogReporter) (f : LoggedFleet) (p task : Nat) (sampled : Bool)
    (call : LogCall) : LoggedFleet :=
  let (w, data) := call.run (envs p) (reporters p) task sampled (f.fleet.world p)
  { fleet := { f.fleet with world := Function.update f.fleet.world p w }
    logs := f.logs ++ data.toList }

/-- The fleet after a call that is possible. -/
def next (envs : Nat → Env) (reporters : Nat → LogReporter) (f : LoggedFleet) :
    LoggedAction → Option LoggedFleet
  | .call action => (f.fleet.next envs action).map fun fleet => { f with fleet := fleet }
  | .log p task sampled call => some (f.log envs reporters p task sampled call)

def Step (envs : Nat → Env) (reporters : Nat → LogReporter) (f : LoggedFleet) (action : LoggedAction)
    (f' : LoggedFleet) : Prop :=
  f.next envs reporters action = some f'

/-- The calls of the API are made as in `Fleet.Honest` and `Orderly`; logs are written anywhere. -/
def Regular (f : LoggedFleet) : LoggedAction → Prop
  | .call action => f.fleet.Honest action ∧ Orderly (f.fleet.world action.process) action.call
  | .log _ _ _ _ => True

instance decidableRegular (f : LoggedFleet) : ∀ action, Decidable (f.Regular action)
  | .call action => inferInstanceAs
      (Decidable (f.fleet.Honest action ∧ Orderly (f.fleet.world action.process) action.call))
  | .log _ _ _ _ => inferInstanceAs (Decidable True)

/-- What the log says about the span that it was written in. -/
def spanName (data : LogData) (traceContext : TraceContext) : SpanName :=
  { traceId := traceContext.traceId
    segmentId := traceContext.traceSegmentId
    spanId := traceContext.spanId
    service := data.service
    serviceInstance := data.serviceInstance }

/-- A log with a trace context was written in exactly one span of the fleet. It was entered, and when its
segment is handed to the reporter it is in it. -/
def Correlated (envs : Nat → Env) (f : LoggedFleet) : Prop :=
  ∀ data ∈ f.logs, ∀ traceContext ∈ data.traceContext, ∃ q t,
    (f.fleet.world q).NamedBy (envs q) t (spanName data traceContext) ∧
      (∀ q' t', (f.fleet.world q').Has t' traceContext.traceSegmentId traceContext.spanId →
        q' = q ∧ t' = t) ∧
      (f.fleet.world q).Entered t ∧
      (((f.fleet.world q).span t).context ∈ (f.fleet.world q).archived →
        t ∈ (f.fleet.world q).recorded ((f.fleet.world q).span t).context)

end LoggedFleet

end SkyWalking
