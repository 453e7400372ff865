import Mathlib.Data.List.Basic

/-!
# The stack in a snapshot

`build_snapshot` of the two profilers. What the interpreter says about the thread and the clock are answers.
-/

namespace SkyWalking

namespace StackDump

/-- A frame of `traceback.extract_stack`. Some frames have no line number. -/
structure Frame where
  filename : String
  name : String
  lineno : Option Nat
  deriving DecidableEq, Repr

def Frame.codeSig (frame : Frame) : String :=
  frame.filename ++ "." ++ frame.name ++ ": " ++ (frame.lineno.map toString).getD "None"

structure TracingThreadSnapshot where
  taskId : String
  traceSegmentId : String
  sequence : Nat
  time : Int
  stackList : List String
  deriving DecidableEq, Repr

/-- What a profiler and its `ProfileTaskExecutionContext` know of the dump. -/
structure Profiler where
  taskId : String
  maxSamplingCount : Int
  segmentId : String
  dumpSequence : Nat
  /-- `_total_started_profiling_cnt`. -/
  totalStartedProfiling : Nat

def Profiler.isStartProfileable (profiler : Profiler) : Bool × Profiler :=
  (((profiler.totalStartedProfiling + 1 : Nat) : Int) ≤ profiler.maxSamplingCount,
    { profiler with totalStartedProfiling := profiler.totalStartedProfiling + 1 })

/-- The loop over the extracted stack, from the index `idx` on. -/
def stackList (maxStackDepth : Int) : Nat → List Frame → List String
  | _, [] => []
  | idx, item :: rest =>
      if maxStackDepth < idx then [] else item.codeSig :: stackList maxStackDepth (idx + 1) rest

/-- The check of the first dump, and the snapshot. -/
def Profiler.dump (profiler : Profiler) (currentTime : Int) (stackList : List String) :
    Option TracingThreadSnapshot × Profiler :=
  let checked := if profiler.dumpSequence = 0 then profiler.isStartProfileable else (true, profiler)
  if checked.1 then
    (some ⟨checked.2.taskId, checked.2.segmentId, checked.2.dumpSequence, currentTime, stackList⟩,
      { checked.2 with dumpSequence := checked.2.dumpSequence + 1 })
  else (none, checked.2)

/-- `ThreadProfiler.build_snapshot`. The stack is that of the frame which was found for the thread. -/
def Profiler.threadBuildSnapshot (profiler : Profiler) (maxStackDepth : Int) (isAlive : Bool)
    (currentTime : Int) (stack : Option (List Frame)) : Option TracingThreadSnapshot × Profiler :=
  if !isAlive then (none, profiler)
  else match stack with
    | none => (none, profiler)
    | some extracted => profiler.dump currentTime (stackList maxStackDepth 0 extracted)

/-- `GreenletProfiler.build_snapshot`. -/
def Profiler.greenletBuildSnapshot (profiler : Profiler) (maxStackDepth : Int) (currentTime : Int)
    (extracted : List Frame) : Option TracingThreadSnapshot × Profiler :=
  profiler.dump currentTime (stackList maxStackDepth 0 extracted)

/-- A snapshot that one of the profilers has built of a stack. -/
inductive Built (maxStackDepth : Int) (extracted : List Frame) (t : TracingThreadSnapshot) : Prop where
  | thread (profiler : Profiler) (currentTime : Int) :
      (profiler.threadBuildSnapshot maxStackDepth true currentTime (some extracted)).1 = some t →
        Built maxStackDepth extracted t
  | greenlet (profiler : Profiler) (currentTime : Int) :
      (profiler.greenletBuildSnapshot maxStackDepth currentTime extracted).1 = some t →
        Built maxStackDepth extracted t

/-- The first frames in order, and no more than the limit. -/
def KeepsLimit (maxStackDepth : Nat) (extracted : List Frame) (t : TracingThreadSnapshot) : Prop :=
  t.stackList = (extracted.take maxStackDepth).map Frame.codeSig ∧
    t.stackList.length ≤ maxStackDepth

end StackDump

end SkyWalking
