import SkyWalking.Lib.Queue
import SkyWalking.Lib.Run
import SkyWalking.Lib.Text
import SkyWalking.Report.Async
import SkyWalking.Trace.Context

/-!
# The life of the sync agent, across forks

`SkyWalkingAgent`, with the part of `config` that `finalize` writes. Every process of a tree has its own
agent: `fork` copies that of the parent, and then runs the at-fork hooks that the parent had registered
in the child. Process ids are not used twice.
-/

namespace SkyWalking

namespace Lifecycle

/-- The four Kafka topics. -/
structure Topics where
  management : String
  meter : String
  log : String
  segment : String
  deriving DecidableEq, Repr

/-- The settings before the first start, and what the platform says: whether `os.register_at_fork` is
there, whether `agent_logging_level` names a level, whether `re.compile` accepts the patterns of
`finalize_regex` and those of `agent_disable_plugins`, and whether the packages that the module of the
protocol imports are installed. `environ` is `os.environ`, `intMaxStrDigits` the limit of `int`. -/
structure Config where
  agentProtocol : Protocol
  agentName : String
  agentInstanceName : String
  agentNamespace : String
  kafkaNamespace : String
  kafkaTopics : Topics
  profileActive : Bool
  meterReporterActive : Bool
  logReporterActive : Bool
  experimentalForkSupport : Bool
  hasRegisterAtFork : Bool
  maxsize : ItemKind → Nat
  loggingLevelKnown : Bool
  regexesCompile : Bool
  disablePluginsCompile : Bool
  packagesInstalled : Bool
  kafkaBootstrapServers : String
  environ : List (String × String)
  intMaxStrDigits : Nat

/-- An attribute that may not be there, may be `None`, or is a queue. -/
inductive QueueAttr where
  | unset
  | noneValue
  | queue (items : List Nat)
  deriving DecidableEq, Repr

/-- A protocol object; `serial` tells those of one process lineage apart. -/
structure ProtocolObject where
  protocol : Protocol
  serial : Nat
  deriving DecidableEq, Repr

inductive StartError where
  | valueError
  | runtimeError
  | reError
  | importError
  | kafkaConfigDuplicated (key : String)
  deriving DecidableEq, Repr

/-- A value of `kafka_configs`. -/
inductive KafkaValue where
  | list (values : List String)
  | str (value : String)
  | int (value : Int)
  | bool (value : Bool)
  deriving DecidableEq, Repr

namespace KafkaConfigs

/-- The value that a variable of the environment gives to a setting. -/
def parseValue (config : Config) (val : String) : Except StartError KafkaValue :=
  if Text.isnumeric val then
    match Text.intWithin? config.intMaxStrDigits val with
    | some number => .ok (.int number)
    | none => .error .valueError
  else if val = "True" then .ok (.bool true)
  else if val = "False" then .ok (.bool false)
  else .ok (.str val)

/-- The loop over the variables whose names begin with `SW_KAFKA_REPORTER_CONFIG_`; a setting that is
there already is not overwritten. -/
def readAll (config : Config) :
    List (String × String) → List (String × KafkaValue) → Except StartError (List (String × KafkaValue))
  | [], configs => .ok configs
  | (name, val) :: rest, configs =>
      if "SW_KAFKA_REPORTER_CONFIG_".toList.isPrefixOf name.toList then
        let key := String.ofList (name.toList.drop 25)
        match parseValue config val with
        | .error error => .error error
        | .ok value =>
            if key ∈ configs.map Prod.fst then .error (.kafkaConfigDuplicated key)
            else readAll config rest (configs ++ [(key, value)])
      else readAll config rest configs

/-- `__init_kafka_configs`, which importing `skywalking.client.kafka` runs. -/
def init (config : Config) : Except StartError (List (String × KafkaValue)) :=
  readAll config config.environ
    [("bootstrap_servers", .list (Text.split ',' config.kafkaBootstrapServers))]

end KafkaConfigs

/-- The import of the module of the protocol. -/
def importProtocol (config : Config) : Option StartError :=
  if !config.packagesInstalled then some .importError
  else
    match config.agentProtocol with
    | .grpc | .http => none
    | .kafka =>
        match KafkaConfigs.init config with
        | .error error => some error
        | .ok _ => none

/-- One process: the attributes of its agent, its registrations, and its `config`. The counters say how
often the three steps of the instrumentation were executed on the path from the root of the tree to
here. `stopped` notes that `stop` has taken the flag down on that path, `failed` that
`config.finalize` has raised, and `halted` that nothing was started since the last `stop`. -/
structure Process where
  pid : Nat
  started : Bool
  startedPid : Option Nat
  reporting : Bool
  atForkRegistered : Bool
  finiRegistered : Bool
  protocol : Option ProtocolObject
  finished : Option Bool
  queue : ItemKind → QueueAttr
  atexit : Nat
  forkHooks : Nat
  serials : Nat
  agentName : String
  agentInstanceName : String
  kafkaTopics : Topics
  profileActive : Bool
  meterReporterActive : Bool
  finalizeCalls : Nat
  logInstalls : Nat
  pluginInstalls : Nat
  stopped : Bool
  failed : Bool
  halted : Bool

namespace Process

/-- The first process, with an agent as `__init__` leaves it. -/
def init (config : Config) : Process :=
  { pid := 0
    started := false
    startedPid := none
    reporting := false
    atForkRegistered := false
    finiRegistered := false
    protocol := none
    finished := none
    queue := fun _ => .unset
    atexit := 0
    forkHooks := 0
    serials := 0
    agentName := config.agentName
    agentInstanceName := config.agentInstanceName
    kafkaTopics := config.kafkaTopics
    profileActive := config.profileActive
    meterReporterActive := config.meterReporterActive
    finalizeCalls := 0
    logInstalls := 0
    pluginInstalls := 0
    stopped := false
    failed := false
    halted := false }

def finalizeFeature (config : Config) (p : Process) : Process :=
  if config.agentProtocol = .http ∧ (p.profileActive ∨ p.meterReporterActive) then
    { p with
      profileActive := false
      meterReporterActive := false }
  else if config.agentProtocol = .kafka ∧ p.profileActive then { p with profileActive := false }
  else p

end Process

/-- `f'{name}|{namespace}'`, if there is a namespace. -/
def suffixed (agentNamespace name : String) : String :=
  if agentNamespace = "" then name else name ++ "|" ++ agentNamespace

/-- `f'{namespace}-{topic}'` for each topic, if there is a namespace. -/
def Topics.prefixed (kafkaNamespace : String) (topics : Topics) : Topics :=
  if kafkaNamespace = "" then topics
  else
    { management := kafkaNamespace ++ "-" ++ topics.management
      meter := kafkaNamespace ++ "-" ++ topics.meter
      log := kafkaNamespace ++ "-" ++ topics.log
      segment := kafkaNamespace ++ "-" ++ topics.segment }

namespace Process

def finalizeName (config : Config) (p : Process) : Process :=
  { p with
    agentName := suffixed config.agentNamespace p.agentName
    kafkaTopics := p.kafkaTopics.prefixed config.kafkaNamespace }

def finalize (config : Config) (p : Process) : Process × Option StartError :=
  let p := { p with finalizeCalls := p.finalizeCalls + 1 }
  let p := p.finalizeFeature config
  if config.regexesCompile then (p.finalizeName config, none)
  else ({ p with failed := true }, some .reError)

/-- The end of `__init_instrumentation`. `log.install` catches what it meets; `plugins.install` catches
what a plugin raises, but not what a pattern does. -/
def installAll (config : Config) (p : Process) : Process × Option StartError :=
  let p := if config.logReporterActive then { p with logInstalls := p.logInstalls + 1 } else p
  let p := { p with pluginInstalls := p.pluginInstalls + 1 }
  (p, if config.disablePluginsCompile then none else some .reError)

def initInstrumentation (config : Config) (p : Process) : Process × Option StartError :=
  match p.finalize config with
  | (p, some error) => (p, some error)
  | (p, none) => installAll config { p with started := true }

/-- The reporter of a kind is enabled. -/
def enabled (config : Config) (p : Process) : ItemKind → Bool
  | .segment => true
  | .log => config.logReporterActive
  | .meter => p.meterReporterActive
  | .snapshot => p.profileActive

def initQueues (config : Config) (p : Process) : Process :=
  { p with queue := fun kind => if p.enabled config kind then .queue [] else .noneValue }

/-- `__bootstrap`: queues, protocol, threads. The queues are there when the import raises. -/
def bootstrap (config : Config) (p : Process) : Process × Option StartError :=
  let p := p.initQueues config
  match importProtocol config with
  | some error => (p, some error)
  | none =>
      ({ p with
          protocol := some ⟨config.agentProtocol, p.serials⟩
          serials := p.serials + 1
          finished := some false
          reporting := true }, none)

/-- `atexit.register(self.__fini)`, once. -/
def registerFini (p : Process) : Process :=
  if p.finiRegistered then p
  else
    { p with
      finiRegistered := true
      atexit := p.atexit + 1 }

def registerForkHooks (config : Config) (p : Process) : Process :=
  if p.atForkRegistered then p
  else if config.hasRegisterAtFork then
    { p with
      atForkRegistered := true
      forkHooks := p.forkHooks + 1 }
  else p

/-- `if config.agent_experimental_fork_support: self.__register_fork_hooks()`. -/
def armForkHooks (config : Config) (p : Process) : Process :=
  if config.experimentalForkSupport then p.registerForkHooks config else p

/-- `start`, behind the test of the flag. -/
def proceed (config : Config) (p : Process) : Process × Option StartError :=
  let p := { p with startedPid := some p.pid }
  match p.bootstrap config with
  | (p, some error) => (p, some error)
  | (p, none) =>
      let p := p.registerFini
      ({ p.armForkHooks config with halted := false }, none)

/-- `start`. It sets the logging level first. -/
def start (config : Config) (p : Process) : Process × Option StartError :=
  if !config.loggingLevelKnown then (p, some .valueError)
  else if p.started then
    if p.startedPid = some p.pid then (p, some .runtimeError) else p.proceed config
  else
    match p.initInstrumentation config with
    | (p, some error) => (p, some error)
    | (p, none) => p.proceed config

/-- `start_prefork_master`, behind the instrumentation. -/
def arm (config : Config) (p : Process) : Process × Option StartError :=
  ({ p with startedPid := some p.pid }.armForkHooks config, none)

def startPreforkMaster (config : Config) (p : Process) : Process × Option StartError :=
  if !config.loggingLevelKnown then (p, some .valueError)
  else if p.started then p.arm config
  else
    match p.initInstrumentation config with
    | (p, some error) => (p, some error)
    | (p, none) => p.arm config

/-- `_shutdown_sync_queue`, for one queue after the other: what is not sent is abandoned. -/
def shutdownQueues (p : Process) : List ItemKind → Process × Except PyError Unit
  | [] => (p, .ok ())
  | kind :: rest =>
      match p.queue kind with
      | .queue _ => { p with queue := Function.update p.queue kind (.queue []) }.shutdownQueues rest
      | _ => (p, .error .attributeError)

/-- The queues that `__fini` takes down, in its order. -/
def finiQueues (config : Config) (p : Process) : List ItemKind :=
  [.segment, .log, .snapshot, .meter].filter (p.enabled config)

def fini (config : Config) (p : Process) : Process × Except PyError Unit :=
  if p.reporting then
    match p.finished, p.protocol with
    | some _, some _ => { p with finished := some true }.shutdownQueues (p.finiQueues config)
    | _, _ => (p, .error .attributeError)
  else (p, .ok ())

def stop (config : Config) (p : Process) : Process × Except PyError Unit :=
  let p := { p with
    atexit := 0
    finiRegistered := false }
  match p.fini config with
  | (p, .error error) => (p, .error error)
  | (p, .ok ()) =>
      ({ p with
          reporting := false
          stopped := p.stopped || p.started
          started := false
          halted := true }, .ok ())

def isSegmentQueueFull (config : Config) (p : Process) : Except PyError Bool :=
  if p.reporting then
    match p.queue .segment with
    | .queue items => .ok (Queue.full (config.maxsize .segment) items)
    | _ => .error .attributeError
  else .ok true

/-- `archive_segment`, `archive_log`, `archive_meter` and `add_profiling_snapshot`. -/
def archive (config : Config) (kind : ItemKind) (item : Nat) (p : Process) :
    Process × Except PyError Unit :=
  if p.reporting then
    match p.queue kind with
    | .queue items =>
        match Queue.put (config.maxsize kind) items item with
        | some items => ({ p with queue := Function.update p.queue kind (.queue items) }, .ok ())
        | none => (p, .ok ())
    | _ => (p, .error .attributeError)
  else (p, .ok ())

def forkAfterInChild (config : Config) (p : Process) : Process × Option StartError :=
  { p with
    agentInstanceName := p.agentInstanceName ++ "-child(" ++ toString p.pid ++ ")" }.start config

/-- The hooks run one after the other; what one of them raises is printed. -/
def runForkHooks (config : Config) (p : Process) : Nat → Process × Option StartError
  | 0 => (p, none)
  | hooks + 1 =>
      let (p, error) := p.forkAfterInChild config
      let (p, error') := p.runForkHooks config hooks
      (p, error.orElse fun _ => error')

/-- The child of a `fork`, with what its at-fork start has raised. -/
def fork (config : Config) (pid : Nat) (p : Process) : Process × Option StartError :=
  { p with pid := pid }.runForkHooks config p.forkHooks

end Process

/-- The processes by their ids. -/
structure State where
  processes : List Process

def State.init (config : Config) : State := ⟨[Process.init config]⟩

/-- Each action names the process that takes it. -/
inductive Action where
  | start (pid : Nat)
  | startPreforkMaster (pid : Nat)
  | stop (pid : Nat)
  | archive (pid : Nat) (kind : ItemKind) (item : Nat)
  | fork (pid : Nat)
  deriving DecidableEq, Repr

namespace State

/-- A process goes on as another one. -/
def update (pid : Nat) (f : Process → Process) (s : State) : Option State :=
  s.processes[pid]?.map fun p => ⟨s.processes.set pid (f p)⟩

def step (config : Config) (s : State) : Action → Option State
  | .start pid => s.update pid fun p => (p.start config).1
  | .startPreforkMaster pid => s.update pid fun p => (p.startPreforkMaster config).1
  | .stop pid => s.update pid fun p => (p.stop config).1
  | .archive pid kind item => s.update pid fun p => (p.archive config kind item).1
  | .fork pid =>
      s.processes[pid]?.map fun p => ⟨s.processes ++ [(p.fork config s.processes.length).1]⟩

end State

def Step (config : Config) (s : State) (action : Action) (s' : State) : Prop :=
  s.step config action = some s'

/-- On the path to this process, each of the three steps was executed at most once, and no name has got
its namespace twice. -/
structure InstrumentedOnce (config : Config) (p : Process) : Prop where
  finalize_le : p.finalizeCalls ≤ 1
  logInstalls_le : p.logInstalls ≤ 1
  pluginInstalls_le : p.pluginInstalls ≤ 1
  agentName : p.agentName = config.agentName ∨
    p.agentName = suffixed config.agentNamespace config.agentName
  kafkaTopics : p.kafkaTopics = config.kafkaTopics ∨
    p.kafkaTopics = config.kafkaTopics.prefixed config.kafkaNamespace

/-- The process has not taken its flag down, and no start has raised in `config.finalize`, on the path
to here. -/
def Process.unspoilt (p : Process) : Bool := !p.stopped && !p.failed

/-- Nothing is started, by a call or by an at-fork hook, on a path on which the flag was taken down or
`config.finalize` has raised. -/
def State.startsOnce (s : State) : Action → Bool
  | .start pid | .startPreforkMaster pid => s.processes[pid]?.all Process.unspoilt
  | .fork pid => s.processes[pid]?.all fun p => p.forkHooks == 0 || p.unspoilt
  | _ => true

/-- What a start that raises has to leave as it is. -/
structure Unchanged (p p' : Process) : Prop where
  started : p'.started = p.started
  startedPid : p'.startedPid = p.startedPid
  queue : p'.queue = p.queue
  protocol : p'.protocol = p.protocol
  finiRegistered : p'.finiRegistered = p.finiRegistered
  atexit : p'.atexit = p.atexit
  atForkRegistered : p'.atForkRegistered = p.atForkRegistered
  forkHooks : p'.forkHooks = p.forkHooks

/-- The attributes that reporting uses are there. -/
structure Initialised (config : Config) (p : Process) : Prop where
  queue : ∀ kind, p.enabled config kind = true → ∃ items, p.queue kind = .queue items
  protocol : p.protocol.isSome = true
  finished : p.finished.isSome = true

/-- With this answer of the queue, whatever is asked for a span gives a `NoopSpan`. -/
def GivesNoop (queueFull : Bool) : Prop :=
  ∀ (env : Env) (task self : Nat) (ignored : Bool) (call : Call) (w : World), ∃ w' span,
    call.run env task self ⟨ignored, queueFull⟩ w = (w', .ok span) ∧ (w'.span span).cls = .NoopSpan

/-- Nothing is archived, and no span is real. -/
structure Silent (config : Config) (p : Process) : Prop where
  archive : ∀ kind item, p.archive config kind item = (p, .ok ())
  noop : ∃ queueFull, p.isSegmentQueueFull config = .ok queueFull ∧ GivesNoop queueFull

/-- Ids from `fresh` on have not been used for a process. -/
structure Healthy (config : Config) (fresh : Nat) (p : Process) : Prop where
  atexit_le : p.atexit ≤ 1
  forkHooks_le : p.forkHooks ≤ 1
  start : ∀ error, (p.start config).2 = some error → Unchanged p (p.start config).1
  startPreforkMaster : ∀ error, (p.startPreforkMaster config).2 = some error →
    Unchanged p (p.startPreforkMaster config).1
  fork : 0 < p.forkHooks → ∀ pid, fresh ≤ pid → (p.fork config pid).2 = none
  initialised : p.reporting = true → Initialised config p
  isSegmentQueueFull : ∃ queueFull, p.isSegmentQueueFull config = .ok queueFull
  archive : ∀ kind item, p.enabled config kind = true → (p.archive config kind item).2 = .ok ()
  fini : (p.fini config).2 = .ok ()
  silent : p.halted = true → Silent config p

/-- The instance names of the processes, by process id. -/
def State.instanceNames (s : State) : List String := s.processes.map Process.agentInstanceName

/-- A process that forks has a hook to run in the child. -/
def State.forksHooked (s : State) : Action → Bool
  | .fork pid => s.processes[pid]?.all fun p => p.forkHooks != 0
  | _ => true

/-- The ids on the path from the first process to each process, by process id. -/
def lineages (actions : List Action) : List (List Nat) :=
  actions.foldl
    (fun paths action =>
      match action with
      | .fork pid => paths ++ [paths.getD pid [] ++ [paths.length]]
      | _ => paths)
    [[]]

/-- The name that the hooks on a path make of the first process's. -/
def nameOf (agentInstanceName : String) (path : List Nat) : String :=
  path.foldl (fun name pid => name ++ "-child(" ++ toString pid ++ ")") agentInstanceName

end Lifecycle

end SkyWalking
