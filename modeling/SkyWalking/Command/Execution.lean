import SkyWalking.Command.Dispatch
import SkyWalking.Profile.Service

/-!
# The execution of a profile task command

The dispatcher makes a `ProfileTask` of the texts of the command and passes it to `add_profile_task`,
which checks it, puts it into the task list and schedules its start. Nothing on that way is caught: an
exception ends `dispatch`, while commands are received as before. The timers and the profile thread take
their steps on the task list at any time.
-/

namespace SkyWalking

/-- `ProfileTask(...)`, `none` if a field is `None` or not a number. `str` makes `'None'` of `None`. -/
def ProfileTask.ofCommand (limit : Nat) (c : ProfileTaskCommand) : Option ProfileTask := do
  let duration ← c.duration.bind (Text.intWithin? limit)
  let minDurationThreshold ← c.minDurationThreshold.bind (Text.intWithin? limit)
  let threadDumpPeriod ← c.dumpPeriod.bind (Text.intWithin? limit)
  let maxSamplingCount ← c.maxSamplingCount.bind (Text.intWithin? limit)
  let startTime ← c.startTime.bind (Text.intWithin? limit)
  let createTime ← c.createTime.bind (Text.intWithin? limit)
  some
    { taskId := c.taskId.getD "None"
      firstSpanOpName := c.endpointName.getD "None"
      duration := duration
      minDurationThreshold := minDurationThreshold
      threadDumpPeriod := threadDumpPeriod
      maxSamplingCount := maxSamplingCount
      startTime := startTime
      createTime := createTime }

/-- `milliseconds / 1000` is too large for a float. -/
def Scheduler.overflows (milliseconds : Int) : Bool :=
  decide (1000 * (2 ^ 1024 - 2 ^ 970) ≤ milliseconds.natAbs)

namespace ProfileTaskCommandExecutor

structure State where
  service : CommandService.State
  profile : ProfileTaskExecutionService.State
  /-- The dispatcher is in `add_profile_task`, between the check and the put of this task. -/
  putting : Option Nat
  /-- An exception has left `dispatch`. -/
  ended : Bool

def State.init : State :=
  { service := .init
    profile := .init
    putting := none
    ended := false }

inductive Action where
  | receiveCommand (batch : List Command)
  | receiver (index : Nat)
  /-- `now` is read if a task is scheduled. -/
  | dispatcher (now : Int)
  /-- A timer or the profile thread. -/
  | profile (action : ProfileTaskExecutionService.Action)

/-- The step of the command service that an action is part of. -/
def Action.service : Action → Option CommandService.Action
  | .receiveCommand batch => some (.receiveCommand batch)
  | .receiver index => some (.receiver index)
  | .dispatcher _ => some .dispatcher
  | .profile _ => none

/-- An operation of the command service. -/
def State.onService (s : State) (action : CommandService.Action) : Option State :=
  (CommandService.step s.service action).map fun service => { s with service := service }

def State.fail (s : State) : State :=
  { s with service := { s.service with dispatcher := .waiting }, ended := true }

/-- `add_profile_task` up to the put; without it the execution is over. -/
def State.addProfileTask (s : State) (task : ProfileTask) : Option State :=
  let s' := { s with profile := s.profile.addProfileTask task }
  if (ProfileTaskExecutionService.checkProfileTask s.profile.listed task).isNone then
    some { s' with putting := some s.profile.tasks.length }
  else s'.onService .dispatcher

/-- The put of `add_profile_task`, and the start timer. -/
def State.putTask (s : State) (number : Nat) (delayMillis : Int) : Option State :=
  let profile := s.profile.putTask number
  if Scheduler.overflows delayMillis then
    some { s with
      profile := { profile with scheduled := s.profile.scheduled }
      putting := none }.fail
  else { s with profile := profile, putting := none }.onService .dispatcher

/-- `command_executor_service.execute`. -/
def State.execute (limit : Nat) (s : State) (now : Int) (receipt : CommandService.Receipt) :
    Option State :=
  match ProfileTask.ofCommand limit receipt.command with
  | none => some s.fail
  | some task =>
      match s.putting with
      | none => s.addProfileTask task
      | some number => s.putTask number (task.startTime - now)

/-- The state after an action, `none` if the action cannot happen. -/
def step (limit : Nat) (s : State) : Action → Option State
  | .receiveCommand batch => s.onService (.receiveCommand batch)
  | .receiver index => s.onService (.receiver index)
  | .dispatcher now =>
      if s.ended then none
      else
        match s.service.dispatcher with
        | .passed receipt => s.execute limit now receipt
        | _ => s.onService .dispatcher
  | .profile (.addProfileTask _) | .profile (.putTask _) => none
  | .profile action =>
      (ProfileTaskExecutionService.step s.profile action).map fun profile =>
        { s with profile := profile }

/-- Whether the scheduler may take the action; timers and the profile thread are threads in any case. -/
def Schedulable (mode : CommandService.Mode) (s : State) (action : Action) : Prop :=
  ∀ service, action.service = some service → CommandService.Schedulable mode s.service service

def Step (limit : Nat) (mode : CommandService.Mode) : State → Action → State → Prop :=
  Guarded (Schedulable mode) fun s action s' => step limit s action = some s'

/-- The command whose task was passed to `add_profile_task` while its execution goes on. -/
def State.current (s : State) : List CommandService.Receipt :=
  if s.putting.isSome then s.service.dispatcher.held else []

/-- The dispatch loop runs, does not block while there are commands, and has passed the task of every
command that was not skipped for a serial number among the last 64 executed. -/
structure State.Served (limit : Nat) (s : State) : Prop where
  alive : s.ended = false
  responsive : s.service.commands ≠ [] ∨ s.service.dispatcher ≠ .waiting →
    ∀ now, (step limit s (.dispatcher now)).isSome
  accounted : s.service.received.Perm (s.service.receivers.flatMap CommandService.Receiver.held ++
    s.service.skipped .reception ++ s.service.commands ++ s.service.dispatcher.held ++
    s.service.executed ++ s.service.skipped .dispatch)
  passed : (s.service.executed ++ s.current).map (fun receipt =>
    ProfileTask.ofCommand limit receipt.command) = s.profile.tasks.map some
  skipped : ∀ test ∈ s.service.tests, test.skipped = true →
    test.receipt.serialNumber ∈
      (test.executed.map CommandService.Receipt.serialNumber).rtake 64

/-- What the dispatcher executes can be executed: the numbers of the command are there and can be read,
and an accepted task does not start too far from now. -/
def State.Executable (limit : Nat) (s : State) : Action → Prop
  | .dispatcher now => ∀ receipt, s.service.dispatcher = .passed receipt →
      ∃ task, ProfileTask.ofCommand limit receipt.command = some task ∧
        (s.putting.isSome → Scheduler.overflows (task.startTime - now) = false)
  | _ => True

/-- The serial number of an incoming command is not tested between the execution of a command and its
`add` if this is when the number leaves the last 64. -/
def State.UpToDate (s : State) : Action → Prop
  | .receiver index => ∀ receiver receipt last, s.service.receivers[index]? = some receiver →
      receiver.stage = .read receipt → s.service.dispatcher = .ran last →
      receipt.serialNumber ∈
        (s.service.executed.dropLast.map CommandService.Receipt.serialNumber).rtake 64 →
      receipt.serialNumber ∈
        (s.service.executed.map CommandService.Receipt.serialNumber).rtake 64
  | _ => True

end ProfileTaskCommandExecutor

end SkyWalking
