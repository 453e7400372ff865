import Mathlib.Algebra.Order.Field.Rat
import Mathlib.Logic.Function.Basic
import SkyWalking.Lib.Run
import SkyWalking.Lib.Throttle

/-!
# The loops of the reporters

`report_with_backoff` around the functions of the agent that report. Each loop runs in a thread of its own,
or in a coroutine for `report_with_backoff_async`; time passes between their steps. The protocol decides what
`is_ready` and the calls that report come to, and how long they take. These are the runs of one life of the
agent, from its bootstrap on.
-/

namespace SkyWalking

structure ReporterLine where
  reporterName : String
  wait : ℚ
  now : ℚ
  deriving DecidableEq

structure ReporterLog where
  lastReporterLogAt : String → Option ℚ
  lines : List ReporterLine

def reporterLogIntervalSec : ℚ := 30

def ReporterLog.logReporterExceptionThrottled (log : ReporterLog) (reporterName : String) (wait now : ℚ) :
    ReporterLog :=
  let last := (log.lastReporterLogAt reporterName).getD 0
  if now - last < reporterLogIntervalSec then log
  else
    { lastReporterLogAt := Function.update log.lastReporterLogAt reporterName (some now)
      lines := log.lines ++ [⟨reporterName, wait, now⟩] }

/-- What a call of the function that reports comes to. -/
inductive Ending where
  | notReady
  | nothing
  | sent
  | raised
  deriving DecidableEq, Repr

/-- A function that reports: whether it asks `is_ready` and looks at its queue, and what it returns when the
channel is not ready and when it has sent something. -/
structure BackoffReporter where
  name : String
  initWait : ℚ
  asksReady : Bool
  asksQueue : Bool
  flagNotReady : Bool
  flagSent : Bool

namespace BackoffReporter

def heartbeat (heartbeatPeriod : ℚ) : BackoffReporter := ⟨"heartbeat", heartbeatPeriod, true, false, true, false⟩

def reportSegment : BackoffReporter := ⟨"segment", 1 / 50, true, true, true, true⟩

def reportLog : BackoffReporter := ⟨"log", 1 / 50, true, true, true, true⟩

def reportMeter (reporterPeriod : ℚ) : BackoffReporter := ⟨"meter", reporterPeriod, true, true, false, false⟩

def sendProfileSnapshot : BackoffReporter := ⟨"profile_snapshot", 1 / 2, true, true, false, false⟩

def queryProfileCommand (getProfileTaskInterval : ℚ) : BackoffReporter :=
  ⟨"query_profile_command", getProfileTaskInterval, false, false, false, false⟩

/-- The next value of `wait`. -/
def nextWait (reporter : BackoffReporter) (wait : ℚ) : Ending → ℚ
  | .notReady => if reporter.flagNotReady then 0 else reporter.initWait
  | .nothing => reporter.initWait
  | .sent => if reporter.flagSent then 0 else reporter.initWait
  | .raised => min 60 (if wait * 2 = 0 then 1 else wait * 2)

/-- The value of `wait` after these calls. -/
def waitAfter (reporter : BackoffReporter) (endings : List Ending) : ℚ :=
  endings.foldl reporter.nextWait reporter.initWait

end BackoffReporter

/-- Where a loop is. A call that is running notes when it was made. -/
inductive LoopPhase where
  | checking
  | asking (started : ℚ)
  | sleeping (started wakeAt : ℚ)
  | looking (started : ℚ)
  | sending (started : ℚ)
  | ended
  | waiting (deadline : ℚ)
  | finished
  deriving DecidableEq

structure Loop where
  phase : LoopPhase
  wait : ℚ

/-- What a step of a loop meets. -/
inductive LoopEvent where
  | advance
  | ready (answer : Bool)
  | empty (answer : Bool)
  | returns
  | raises
  deriving DecidableEq, Repr

namespace Loop

/-- The call goes on with a look at the queue, if there is one. -/
def afterReady (reporter : BackoffReporter) (started : ℚ) : LoopPhase :=
  if reporter.asksQueue then .looking started else .sending started

/-- The next phase, and the call that has ended with this step. -/
def turn (reporter : BackoffReporter) (clock : ℚ) (finished : Bool) (phase : LoopPhase) :
    LoopEvent → Option (LoopPhase × Option (ℚ × Ending))
  | .advance =>
      match phase with
      | .checking =>
          if finished then some (.finished, none)
          else if reporter.asksReady then some (.asking clock, none)
          else some (afterReady reporter clock, none)
      | .sleeping started wakeAt =>
          if wakeAt ≤ clock then some (.ended, some (started, .notReady)) else none
      | .waiting deadline => if finished ∨ deadline ≤ clock then some (.checking, none) else none
      | _ => none
  | .ready answer =>
      match phase with
      | .asking started =>
          if answer then some (afterReady reporter started, none)
          else some (.sleeping started (clock + 1 / 2), none)
      | _ => none
  | .empty answer =>
      match phase with
      | .looking started =>
          if answer then some (.ended, some (started, .nothing)) else some (.sending started, none)
      | _ => none
  | .returns =>
      match phase with
      | .sending started => some (.ended, some (started, .sent))
      | _ => none
  | .raises =>
      match phase with
      | .asking started | .sending started => some (.ended, some (started, .raised))
      | _ => none

end Loop

/-- A call that has ended, and the wait that comes after it. -/
structure ReporterCall where
  reporter : Nat
  started : ℚ
  ended : ℚ
  ending : Ending
  wait : ℚ
  deriving DecidableEq

/-- `calls` records the calls that have ended. -/
structure Reporting where
  clock : ℚ
  finished : Bool
  loops : Nat → Loop
  log : ReporterLog
  calls : List ReporterCall

inductive ReportingLabel where
  | tick (delta : ℚ)
  | finish
  /-- `Event.wait` begins, with the time that is left. -/
  | rest (reporter : Nat)
  | turn (reporter : Nat) (event : LoopEvent)

namespace Reporting

def init (reporters : Nat → BackoffReporter) (clock : ℚ) : Reporting :=
  { clock := clock
    finished := false
    loops := fun i => ⟨.checking, (reporters i).initWait⟩
    log := ⟨fun _ => none, []⟩
    calls := [] }

def setPhase (s : Reporting) (i : Nat) (phase : LoopPhase) : Reporting :=
  { s with loops := Function.update s.loops i { s.loops i with phase := phase } }

/-- The function has returned or raised. -/
def endCall (s : Reporting) (reporter : BackoffReporter) (i : Nat) (started : ℚ) (ending : Ending) : Reporting :=
  let wait := reporter.nextWait (s.loops i).wait ending
  { s with
    loops := Function.update s.loops i ⟨.ended, wait⟩
    log :=
      if ending = .raised then s.log.logReporterExceptionThrottled reporter.name wait s.clock
      else s.log
    calls := s.calls ++ [⟨i, started, s.clock, ending, wait⟩] }

def next (reporters : Nat → BackoffReporter) (s : Reporting) : ReportingLabel → Option Reporting
  | .tick delta => if 0 ≤ delta then some { s with clock := s.clock + delta } else none
  | .finish => some { s with finished := true }
  | .rest i =>
      if (s.loops i).phase = .ended then some (s.setPhase i (.waiting (s.clock + (s.loops i).wait)))
      else none
  | .turn i event =>
      match Loop.turn (reporters i) s.clock s.finished (s.loops i).phase event with
      | none => none
      | some (phase, none) => some (s.setPhase i phase)
      | some (_, some (started, ending)) => some (s.endCall (reporters i) i started ending)

def Step (reporters : Nat → BackoffReporter) (s : Reporting) (label : ReportingLabel) (s' : Reporting) : Prop :=
  s.next reporters label = some s'

def callsOf (s : Reporting) (i : Nat) : List ReporterCall := s.calls.filter fun call => call.reporter = i

end Reporting

/-- The wait after the last of some calls that have all raised, for the wait before the first one. -/
def waitFailed (wait : ℚ) (failures : Nat) : ℚ :=
  min 60 (if wait = 0 then 2 ^ (failures - 1) else 2 ^ failures * wait)

/-- No wait is shorter, but for no wait at all. -/
def leastWait (initWait : ℚ) : ℚ := if initWait = 0 then 1 / 2 else min (1 / 2) initWait

/-- How the calls of one reporter follow each other. -/
structure Paced (reporter : BackoffReporter) (calls : List ReporterCall) : Prop where
  waits : ∀ before call, before ++ [call] <+: calls →
    call.wait = reporter.waitAfter (before.map (·.ending) ++ [call.ending])
  /-- The next call is made after the wait. -/
  rested : calls.IsChain fun call later => call.ended + call.wait ≤ later.started
  lasts : ∀ call ∈ calls, call.started ≤ call.ended
  /-- Who finds the channel not ready stays for half a second. -/
  sleeps : ∀ call ∈ calls, call.ending = .notReady → call.started + 1 / 2 ≤ call.ended

/-- Calls in a row that have all raised. -/
structure Outage (calls before window : List ReporterCall) : Prop where
  within : before ++ window <+: calls
  ne_nil : window ≠ []
  raised : ∀ call ∈ window, call.ending = .raised

/-- Calls that raise grow rare: the waits are doubled until they last a minute. -/
structure Rare (reporter : BackoffReporter) (before window : List ReporterCall) : Prop where
  doubled : ∀ last ∈ window.getLast?,
    last.wait = waitFailed (reporter.waitAfter (before.map (·.ending))) window.length
  spread : 0 ≤ reporter.initWait → ∀ doublings : Nat, 60 ≤ 2 ^ doublings * leastWait reporter.initWait →
    ∀ first ∈ window.head?, ∀ last ∈ window.getLast?,
      ((window.length : ℚ) - doublings) * 60 ≤ last.started - first.started

/-- What the loops of the reporters keep to, also while nothing can be reported. -/
structure Reporting.Orderly (reporters : Nat → BackoffReporter) (s : Reporting) : Prop where
  paced : ∀ i, Paced (reporters i) (s.callsOf i)
  rare : ∀ i before window, Outage (s.callsOf i) before window → Rare (reporters i) before window
  /-- In each window of time there are as many lines as half minutes fit in, and one more. -/
  terse : ∀ name low high, low ≤ high →
    (((s.log.lines.filter fun line => line.reporterName = name ∧ low ≤ line.now ∧ line.now ≤ high).length : ℚ) - 1)
      * 30 ≤ high - low
  /-- Who raises is reported, now or less than half a minute ago. -/
  reported : ∀ call ∈ s.calls, call.ending = .raised → 30 ≤ call.ended →
    ∃ line ∈ s.log.lines, line.reporterName = (reporters call.reporter).name ∧
      line.now ≤ call.ended ∧ call.ended < line.now + 30
  /-- A line tells when the call is made again. -/
  told : ∀ line ∈ s.log.lines, ∃ call ∈ s.calls, call.ending = .raised ∧
    (reporters call.reporter).name = line.reporterName ∧ call.ended = line.now ∧ call.wait = line.wait

end SkyWalking
