import SkyWalking.Lib.Run

/-!
# The profile task service

A profile task is checked, put into the task list and started by a timer; its execution context is stopped
by a second timer, by the start of the next task or by the end of its profile thread. `_rlock` serialises
starts and stops. A stop takes the whole list apart and puts it together again, and only the put of an
`add_profile_task` can fall in between. Tasks and contexts are compared by identity, so both are numbered.
-/

namespace SkyWalking

structure ProfileTask where
  taskId : String := ""
  firstSpanOpName : String := ""
  duration : Int := -1
  minDurationThreshold : Int := -1
  threadDumpPeriod : Int := -1
  maxSamplingCount : Int := -1
  startTime : Int := -1
  createTime : Int := -1
  deriving DecidableEq, Repr

namespace ProfileConstants

def taskDurationMinMinute : Int := 1

def taskDurationMaxMinute : Int := 15

def taskDumpPeriodMinMillis : Int := 10

def taskMaxSamplingCount : Int := 10

end ProfileConstants

namespace ProfileTaskExecutionService

open ProfileConstants

def minuteToMillis : Int := 60000

def calProfileTaskFinishTime (task : ProfileTask) : Int := task.startTime + task.duration * minuteToMillis

/-- The reason for which a task is refused, `none` if it is accepted. -/
def checkProfileTask (taskList : List ProfileTask) (task : ProfileTask) : Option String :=
  if task.firstSpanOpName.length = 0 then
    some ("endpoint name [" ++ task.firstSpanOpName ++ "] error, should be str and not empty")
  else if task.duration < taskDurationMinMinute then
    some ("monitor duration must be greater than " ++ toString taskDurationMinMinute ++ " minutes")
  else if task.duration > taskDurationMaxMinute then
    some ("monitor duration must be less than " ++ toString taskDurationMaxMinute ++ " minutes")
  else if task.minDurationThreshold < 0 then
    some "min duration threshold must be greater than or equals zero"
  else if task.threadDumpPeriod < taskDumpPeriodMinMillis then
    some ("dump period must be greater than or equals to " ++ toString taskDumpPeriodMinMillis ++
      " milliseconds")
  else if task.maxSamplingCount ≤ 0 then some "max sampling count must be greater than zero"
  else if task.maxSamplingCount ≥ taskMaxSamplingCount then
    some ("max sampling count must be less than " ++ toString taskMaxSamplingCount)
  else
    let taskFinishTime := calProfileTaskFinishTime task
    let overlaps (other : ProfileTask) : Bool :=
      decide (task.startTime ≤ taskFinishTime ∧ taskFinishTime ≤ calProfileTaskFinishTime other)
    (taskList.find? overlaps).map fun other =>
      "there already have processing task in time range, could not add a new task again. " ++
        "processing task monitor endpoint name: " ++ other.firstSpanOpName

/-- What `_check_profile_task` asks of the new task alone. -/
structure FieldsOk (task : ProfileTask) : Prop where
  endpoint : task.firstSpanOpName.length ≠ 0
  durationMin : taskDurationMinMinute ≤ task.duration
  durationMax : task.duration ≤ taskDurationMaxMinute
  threshold : 0 ≤ task.minDurationThreshold
  dumpPeriod : taskDumpPeriodMinMillis ≤ task.threadDumpPeriod
  sampling : 0 < task.maxSamplingCount
  samplingMax : task.maxSamplingCount < taskMaxSamplingCount

/-- The task ends while the other one is executed. -/
def EndsDuring (task other : ProfileTask) : Prop :=
  other.startTime ≤ calProfileTaskFinishTime task ∧
    calProfileTaskFinishTime task ≤ calProfileTaskFinishTime other

/-- The task is over when the other one starts, which ends no earlier. -/
def EndsBefore (task other : ProfileTask) : Prop :=
  calProfileTaskFinishTime task < other.startTime ∧
    calProfileTaskFinishTime task ≤ calProfileTaskFinishTime other

/-- The new task is rejected exactly if it ends during a listed one; so it is accepted if it is over
before they start. -/
structure WindowChecked (taskList : List ProfileTask) (task : ProfileTask) : Prop where
  rejected : (checkProfileTask taskList task).isSome ↔ ∃ other ∈ taskList, EndsDuring task other
  accepted : (∀ other ∈ taskList, calProfileTaskFinishTime task < other.startTime) →
    checkProfileTask taskList task = none

/-- A `ProfileTaskExecutionContext`; `stopped` is its `_profiling_stop_event`. -/
structure Context where
  task : Nat
  stopped : Bool
  deriving DecidableEq, Repr

/-- The loop of `remove_from_profile_task_list` that runs. -/
inductive Phase where
  | draining
  | refilling
  deriving DecidableEq, Repr

/-- A call of `stop_current_profile_task` that has cleared the reference and holds `_rlock`. -/
structure Removal where
  task : Nat
  itemLeft : List Nat
  phase : Phase
  /-- The task of the `process_profile_task` that the call is part of. -/
  starting : Option Nat
  deriving DecidableEq, Repr

structure State where
  /-- The tasks of all calls of `add_profile_task`. -/
  tasks : List ProfileTask
  lastCommandCreateTime : Int
  profileTaskList : List Nat
  /-- The calls of `add_profile_task` between the check and the put. -/
  adding : List Nat
  /-- The tasks put by `add_profile_task`. -/
  accepted : List Nat
  /-- The tasks whose start timer has not fired. -/
  scheduled : List Nat
  contexts : List Context
  taskExecutionContext : Option Nat
  removal : Option Removal
  /-- The arguments of `agent.notify_profile_finish`. -/
  notified : List Nat
  deriving DecidableEq, Repr

def State.init : State :=
  { tasks := []
    lastCommandCreateTime := -1
    profileTaskList := []
    adding := []
    accepted := []
    scheduled := []
    contexts := []
    taskExecutionContext := none
    removal := none
    notified := [] }

/-- The tasks that the list holds, as `_check_profile_task` reads them. -/
def State.listed (s : State) : List ProfileTask := s.profileTaskList.filterMap (s.tasks[·]?)

/-- `add_profile_task` up to the put. -/
def State.addProfileTask (s : State) (task : ProfileTask) : State :=
  let adding :=
    if (checkProfileTask s.listed task).isNone then s.adding ++ [s.tasks.length] else s.adding
  { s with
    tasks := s.tasks ++ [task]
    lastCommandCreateTime :=
      if task.createTime > s.lastCommandCreateTime then task.createTime else s.lastCommandCreateTime
    adding := adding }

/-- The put of `add_profile_task`, and the start timer. -/
def State.putTask (s : State) (task : Nat) : State :=
  { s with
    profileTaskList := s.profileTaskList ++ [task]
    adding := s.adding.erase task
    accepted := s.accepted ++ [task]
    scheduled := s.scheduled ++ [task] }

/-- The start timer of the task fires. -/
def State.fired (s : State) (task : Nat) : State := { s with scheduled := s.scheduled.erase task }

/-- `current_context = ProfileTaskExecutionContext(task)` and what follows it. -/
def State.startContext (s : State) (task : Nat) : State :=
  { s with
    contexts := s.contexts ++ [⟨task, false⟩]
    taskExecutionContext := some s.contexts.length }

/-- `stop_current_profile_task` up to the removal; `starting` is the task of the caller. -/
def State.stopContext (s : State) (needStop : Nat) (context : Context) (starting : Option Nat) :
    State :=
  { s with
    taskExecutionContext := none
    contexts := s.contexts.set needStop { context with stopped := true }
    removal := some ⟨context.task, [], .draining, starting⟩ }

/-- `agent.notify_profile_finish(need_stop.task)`, the last statement of the stop. -/
def State.finishRemoval (s : State) (removal : Removal) : State :=
  { s with removal := none, notified := s.notified ++ [removal.task] }

/-- One round of a loop of `remove_from_profile_task_list`, or what follows the loops. Only the removal
takes items, so the list is not empty at the `get` if it was not empty at the test before it. -/
def State.removalStep (s : State) (removal : Removal) : State :=
  match removal.phase with
  | .draining =>
      match s.profileTaskList with
      | [] => { s with removal := some { removal with phase := .refilling } }
      | item :: rest =>
          let itemLeft :=
            if item = removal.task then removal.itemLeft else removal.itemLeft ++ [item]
          { s with
            profileTaskList := rest
            removal := some { removal with itemLeft := itemLeft } }
  | .refilling =>
      match removal.itemLeft with
      | item :: rest =>
          { s with
            profileTaskList := s.profileTaskList ++ [item]
            removal := some { removal with itemLeft := rest } }
      | [] =>
          match removal.starting with
          | none => s.finishRemoval removal
          | some task => (s.finishRemoval removal).startContext task

inductive Action where
  | addProfileTask (task : ProfileTask)
  | putTask (task : Nat)
  | processProfileTask (task : Nat)
  | stopCurrentProfileTask (needStop : Nat)
  | removalStep
  deriving DecidableEq, Repr

/-- The state after an action, `none` if the action cannot happen. -/
def step (s : State) : Action → Option State
  | .addProfileTask task => some (s.addProfileTask task)
  | .putTask task => if task ∈ s.adding then some (s.putTask task) else none
  | .processProfileTask task =>
      if s.removal = none ∧ task ∈ s.scheduled then
        match s.taskExecutionContext with
        | none => some ((s.fired task).startContext task)
        | some current =>
            (s.contexts[current]?).map ((s.fired task).stopContext current · (some task))
      else none
  | .stopCurrentProfileTask needStop =>
      if s.removal = none then
        (s.contexts[needStop]?).map fun context =>
          if s.taskExecutionContext = some needStop then s.stopContext needStop context none else s
      else none
  | .removalStep => s.removal.map s.removalStep

def Step (s : State) (action : Action) (s' : State) : Prop := step s action = some s'

def State.stoppedTasks (s : State) : List Nat :=
  (s.contexts.filter fun context => context.stopped).map Context.task

/-- The accepted tasks that have not been stopped. -/
def State.live (s : State) : List Nat := s.accepted.filter fun task => decide (task ∉ s.stoppedTasks)

end ProfileTaskExecutionService

end SkyWalking
