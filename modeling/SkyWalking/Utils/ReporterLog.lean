import Mathlib.Algebra.Ring.Int.Defs
import Mathlib.Data.Rat.Defs
import Mathlib.Data.List.Chain
import Mathlib.Logic.Function.Basic

/-!
# Lines about dropped items

`log_dropped_throttled` and the dictionaries it keeps. The clock is read once in each call that counts something.
-/

namespace SkyWalking

/-- A call of `log_dropped_throttled`, and what the clock says then. -/
structure DropCall where
  kind : String
  count : Int
  force : Bool
  now : ℚ

/-- A printed line, with the time and the flag of the call that printed it. -/
structure DropLine where
  kind : String
  delta : Int
  total : Int
  now : ℚ
  force : Bool
  deriving DecidableEq

def DropLine.text (line : DropLine) : String :=
  "dropped " ++ line.kind ++ ": +" ++ toString line.delta ++ " since last log, " ++
    toString line.total ++ " total this process (best-effort; never retried)"

structure DropLog where
  lastDropLogAt : String → Option ℚ
  dropTotals : String → Option Int
  dropLoggedTotals : String → Option Int
  lines : List DropLine

namespace DropLog

def empty : DropLog :=
  { lastDropLogAt := fun _ => none
    dropTotals := fun _ => none
    dropLoggedTotals := fun _ => none
    lines := [] }

def dropLogIntervalSec : ℚ := 30

/-- `_drop_totals.get(kind, 0)`. -/
def total (log : DropLog) (kind : String) : Int := (log.dropTotals kind).getD 0

/-- `_drop_logged_totals.get(kind, 0)`. -/
def logged (log : DropLog) (kind : String) : Int := (log.dropLoggedTotals kind).getD 0

def logDroppedThrottled (log : DropLog) (call : DropCall) : DropLog :=
  if call.count ≤ 0 then log
  else
    let total := log.total call.kind + call.count
    let log := { log with dropTotals := Function.update log.dropTotals call.kind (some total) }
    let last := (log.lastDropLogAt call.kind).getD 0
    if !call.force && call.now - last < dropLogIntervalSec then log
    else
      { log with
        dropLoggedTotals := Function.update log.dropLoggedTotals call.kind (some total)
        lastDropLogAt := Function.update log.lastDropLogAt call.kind (some call.now)
        lines := log.lines ++
          [⟨call.kind, total - log.logged call.kind, total, call.now, call.force⟩] }

/-- The calls of a process, in their order. -/
def run (calls : List DropCall) : DropLog := calls.foldl logDroppedThrottled empty

def linesOf (log : DropLog) (kind : String) : List DropLine :=
  log.lines.filter (·.kind = kind)

/-- What the process knows and has printed about one kind. -/
def view (log : DropLog) (kind : String) : Option ℚ × Option Int × Option Int × List DropLine :=
  (log.lastDropLogAt kind, log.dropTotals kind, log.dropLoggedTotals kind, log.linesOf kind)

end DropLog

/-- How many items of the kind have been dropped. Counts that are not positive do not count. -/
def dropped (calls : List DropCall) (kind : String) : Int :=
  ((calls.filter (·.kind = kind)).map fun call => max call.count 0).sum

/-- The accounting of one kind after these calls. -/
structure DropAccounting (calls : List DropCall) (kind : String) : Prop where
  increments : (((DropLog.run calls).linesOf kind).map (·.delta)).sum =
    (((DropLog.run calls).linesOf kind).getLast?.map (·.total)).getD 0
  total : (DropLog.run calls).total kind = dropped calls kind
  monotone : ∀ call, (DropLog.run calls).total kind ≤ (DropLog.run (calls ++ [call])).total kind
  spaced : ((DropLog.run calls).linesOf kind).IsChain fun earlier later =>
    later.force = false → 30 ≤ later.now - earlier.now
  /-- A call prints nothing, or one line about everything that has been dropped until then. -/
  included : ∀ call, (DropLog.run (calls ++ [call])).linesOf kind = (DropLog.run calls).linesOf kind ∨
    ∃ line, (DropLog.run (calls ++ [call])).linesOf kind = (DropLog.run calls).linesOf kind ++ [line] ∧
      line.total = dropped (calls ++ [call]) kind
  independent : (DropLog.run calls).view kind =
    (DropLog.run (calls.filter (·.kind = kind))).view kind

end SkyWalking
