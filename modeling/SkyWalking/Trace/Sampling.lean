import SkyWalking.Trace.Api

/-!
# Sampling

`sampling_service.py` and those that spend its budget. `get_context` asks the sampler whenever the
calling thread has no span, whatever the context is wanted for: a block, a log record, the snapshot of
`@runnable` or of `continue_tracing`, or a look at it.

A call is under way from `get_context` to the end of `__enter__`, and everything that other threads do
may happen in between. The sampler is asked under its lock and so in one step.
-/

namespace SkyWalking

/-- The name that a span is asked for with. -/
def Call.op : Call → String
  | .newLocalSpan op => op
  | .newEntrySpan op _ _ => op
  | .newExitSpan op _ _ _ => op

namespace Sampling

/-- The settings that the sampler, `ignore_check` and the log handler read. `ignores` is
`RE_IGNORE_PATH.match`. -/
structure Config where
  sampleNPer3Secs : Nat
  ignores : String → Bool
  logReporterLevel : Int
  logReporterIgnoreFilter : Bool

/-- What the log handler looks at before it asks for the context: the logger, the record, and what
`self.filter(record)` answers. -/
structure LogRecord where
  disabled : Bool
  name : String
  levelno : Int
  passesFilter : Bool
  deriving DecidableEq, Repr

/-- The early returns of `_sw_handle`. -/
def LogRecord.handled (config : Config) (record : LogRecord) : Bool :=
  if record.disabled then false
  else if record.name ∈ ["skywalking", "skywalking-cli", "skywalking-loader"] then false
  else if record.levelno < config.logReporterLevel then false
  else config.logReporterIgnoreFilter || record.passesFilter

/-- What a thread calls `get_context` for. -/
inductive Use where
  | block (call : Call)
  | log (record : LogRecord)
  | runnable
  | continueTracing
  | read
  deriving DecidableEq, Repr

/-- The call gets as far as `get_context`. -/
def Use.reads (config : Config) : Use → Bool
  | .log record => record.handled config
  | _ => true

/-- The carrier that a call names exists. -/
def Use.Enabled (w : World) : Use → Prop
  | .block call => ∀ a ∈ call.carrier, a < w.carriers.size
  | _ => True

instance decidableUseEnabled (w : World) : ∀ use : Use, Decidable (use.Enabled w)
  | .block call => inferInstanceAs (Decidable (∀ a ∈ call.carrier, a < w.carriers.size))
  | .log _ | .runnable | .continueTracing | .read => inferInstanceAs (Decidable True)

/-- A question to the sampler, with the root operation on whose behalf it is asked, if there is one. -/
structure Ask where
  root : Option (Call × Option Carrier)

def Use.ask (w : World) : Use → Ask
  | .block call => ⟨some (call, call.carrier.map w.carriers.get)⟩
  | _ => ⟨none⟩

def canSampling (config : Config) (samplingFactor : Nat) : Bool :=
  samplingFactor < config.sampleNPer3Secs

/-- `try_sampling`; with a limit of zero there is no sampling service, and everything is sampled. -/
def trySampling (config : Config) (samplingFactor : Nat) : Nat × Bool :=
  if config.sampleNPer3Secs = 0 then (samplingFactor, true)
  else if canSampling config samplingFactor then (samplingFactor + 1, true)
  else (samplingFactor, false)

/-- A call that has got its context and not returned yet. `asked` is the question that it put to the
sampler since the last reset, with the answer. -/
structure Held where
  task : Nat
  use : Use
  context : Nat
  asked : Option (Ask × Bool)

/-- `asks` lists the questions since the last reset, `real` counts the root operations among them that
have got a real segment. -/
structure State where
  world : World
  samplingFactor : Nat
  held : List Held
  asks : List Ask
  real : Nat

def State.init : State :=
  { world := .init
    samplingFactor := 0
    held := []
    asks := []
    real := 0 }

end Sampling

/-- The thread whose span stack a call changes. -/
def ApiAction.actor : ApiAction → Option Nat
  | .spawn _ child => some child
  | .thread child => some child
  | .start task _ => some task
  | .stop task _ _ => some task
  | _ => none

/-- What else a thread may do in a block or outside: everything but to ask for a context or a span and
to enter a span, which are the steps of a block. -/
def ApiAction.passive : ApiAction → Bool
  | .getContext _ _ | .newSpan _ _ _ _ | .start _ _ => false
  | _ => true

namespace Sampling

inductive Action where
  | api (action : ApiAction)
  | begin (task : Nat) (use : Use)
  | complete (index : Nat)
  | reset

/-- `get_context()`, with the sampler. -/
def State.begin (env : Env) (config : Config) (task : Nat) (use : Use) (s : State) : State :=
  match s.world.view task with
  | [] =>
      let (samplingFactor, sampled) := trySampling config s.samplingFactor
      let (world, context) := getContext env task sampled s.world
      let ask := use.ask s.world
      { s with
        world := world
        samplingFactor := samplingFactor
        held := ⟨task, use, context, some (ask, sampled)⟩ :: s.held
        asks := s.asks ++ [ask] }
  | _ =>
      let (world, context) := getContext env task true s.world
      { s with
        world := world
        held := ⟨task, use, context, none⟩ :: s.held }

/-- The new span of a block and `__enter__`. The segment queue is never full. -/
def enter (env : Env) (config : Config) (held : Held) (call : Call) (w : World) :
    World × Except PyError Nat :=
  match call.run env held.task held.context ⟨config.ignores call.op, false⟩ w with
  | (w, .error error) => (w, .error error)
  | (w, .ok span) => (Span.start held.task span w, .ok span)

/-- The block is there and has a real span. -/
def isReal : World × Except PyError Nat → Bool
  | (_, .error _) => false
  | (w, .ok span) => (w.span span).cls ≠ .NoopSpan

/-- The rest of a call. The log handler and a look at the context change nothing more. -/
def State.complete (env : Env) (config : Config) (index : Nat) (held : Held) (s : State) : State :=
  let rest := s.held.eraseIdx index
  match held.use with
  | .block call =>
      let result := enter env config held call s.world
      { s with
        world := result.1
        held := rest
        real := if held.asked.isSome && isReal result then s.real + 1 else s.real }
  | .runnable | .continueTracing =>
      { s with
        world := (SpanContext.capture held.task held.context s.world).1
        held := rest }
  | .log _ | .read => { s with held := rest }

/-- `reset_sampling_factor`: what is under way belongs to the window that has ended. -/
def State.reset (s : State) : State :=
  { s with
    samplingFactor := 0
    held := s.held.map fun held => { held with asked := none }
    asks := []
    real := 0 }

/-- A thread makes one call at a time. -/
def State.step (env : Env) (config : Config) (s : State) : Action → Option State
  | .api action =>
      if action.passive ∧ action.Enabled s.world ∧
          ∀ held ∈ s.held, action.actor ≠ some held.task then
        some { s with world := action.run env s.world }
      else none
  | .begin task use =>
      if use.Enabled s.world ∧ ∀ held ∈ s.held, held.task ≠ task then
        some (if use.reads config then s.begin env config task use else s)
      else none
  | .complete index => s.held[index]?.map fun held => s.complete env config index held
  | .reset => some s.reset

/-- The runs of a process. -/
def Step (env : Env) (config : Config) (s : State) (action : Action) (s' : State) : Prop :=
  s.step env config action = some s'

/-- Every root operation of the window that was begun is through. -/
def State.Settled (s : State) : Prop :=
  ∀ held ∈ s.held, ∀ call, held.use = .block call → held.asked = none

/-- A root operation whose name is not ignored. -/
def Ask.named (config : Config) (ask : Ask) : Bool :=
  match ask.root with
  | none => false
  | some (call, _) => !config.ignores call.op

/-- The carrier does not raise in `is_valid`, nor, if it is valid, when its span id is read. -/
def readable (carrier : Carrier) : Bool :=
  match carrier.isValid with
  | .error _ => false
  | .ok false => true
  | .ok true =>
      match carrier.spanId.toInt with
      | .error _ => false
      | .ok _ => true

/-- A root operation that `ignore_check` lets pass, and whose carrier, if there is one, can be read. -/
def Ask.traceable (config : Config) (ask : Ask) : Bool :=
  match ask.root with
  | none => false
  | some (call, carrier) =>
      match SpanContext.isIgnored ⟨config.ignores call.op, false⟩ carrier with
      | .ok false => carrier.all readable
      | _ => false

/-- The number of root operations since the last reset whose name is not ignored. -/
def State.namedRoots (config : Config) (s : State) : Nat := s.asks.countP (Ask.named config)

end Sampling

end SkyWalking
