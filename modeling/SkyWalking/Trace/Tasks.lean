import SkyWalking.Lib.Run
import SkyWalking.Trace.Block

/-!
# Interleaved tasks

Any number of tasks open and close span blocks. A task is started with the context variables of its
creator: both are then bound to the same list object. Opening a block, from `get_context` to the end of
`__enter__`, is one step, and so is closing it. The carriers of entry blocks come from received headers or
from the spans of open blocks.
-/

namespace SkyWalking

/-- `blocks` holds the task and the span of every open block, the youngest first. -/
structure TaskState where
  world : World
  started : List Nat
  blocks : List (Nat × Nat)

def TaskState.init : TaskState :=
  { world := .init
    started := [0]
    blocks := [] }

inductive TaskLabel where
  | spawn (creator child : Nat)
  | openBlock (task : Nat) (answers : BlockAnswers) (call : Call)
  | closeBlock (task : Nat) (answers : BlockAnswers) (raised : Option Raised)
  | edit (task : Nat) (span : Nat) (change : Edit)
  | inject (task : Nat) (span : Nat)
  | receive (sw8 correlation : String)
  | wait (seconds : ℚ)

/-- The call does not use `inherit`. -/
def Call.Plain : Call → Prop
  | .newLocalSpan _ => True
  | .newEntrySpan _ _ inherit => inherit = none
  | .newExitSpan _ _ _ inherit => inherit = none

/-- The end of the innermost block of a task. -/
def closeBlock (env : Env) (task span : Nat) (answers : BlockAnswers) (raised : Option Raised)
    (w : World) : World :=
  (Span.stop task span answers.stopFull (noteRaised env answers span raised w)).1

/-- Creating the span returns normally. -/
inductive TaskStep (env : Env) : TaskState → TaskLabel → TaskState → Prop where
  | spawn {s : TaskState} {creator child : Nat} : creator ∈ s.started → child ∉ s.started →
      TaskStep env s (.spawn creator child)
        { s with
          world := s.world.spawn creator child
          started := child :: s.started }
  | openBlock {s : TaskState} {task : Nat} {answers : BlockAnswers} {call : Call} {w : World}
      {span : Nat} : task ∈ s.started → call.Plain →
      openBlock env task answers call s.world = (w, .ok span) →
      TaskStep env s (.openBlock task answers call)
        { s with
          world := w
          blocks := (task, span) :: s.blocks }
  | closeBlock {s : TaskState} {task : Nat} {answers : BlockAnswers} {raised : Option Raised}
      {span : Nat} : s.blocks.find? (·.1 = task) = some (task, span) →
      TaskStep env s (.closeBlock task answers raised)
        { s with
          world := closeBlock env task span answers raised s.world
          blocks := s.blocks.eraseP (·.1 = task) }
  | edit {s : TaskState} {task span : Nat} {change : Edit} : (task, span) ∈ s.blocks →
      TaskStep env s (.edit task span change)
        { s with world := (change.run env span s.world).1 }
  | inject {s : TaskState} {task span : Nat} : (task, span) ∈ s.blocks →
      TaskStep env s (.inject task span)
        { s with world := (Span.inject env span s.world).1 }
  | receive {s : TaskState} {sw8 correlation : String} :
      TaskStep env s (.receive sw8 correlation)
        { s with world := (receiveCarrier env sw8 correlation s.world).1 }
  | wait {s : TaskState} {seconds : ℚ} :
      TaskStep env s (.wait seconds)
        { s with world := { s.world with now := s.world.now + seconds } }

/-- The block that is opened would get a span on top of the stack that is finished already. -/
def Reopens (w : World) (task : Nat) (call : Call) : Prop :=
  ∃ top, (w.view task).getLast? = some top ∧ (w.span top).depth = 0 ∧
    match call with
    | .newExitSpan _ _ component _ =>
        (w.span top).kind = .Exit ∧ component = some (w.span top).inherit
    | _ => False

/-- No exit block is opened with the component that a finished exit span on top of the stack carries as
its `inherit` attribute. -/
def NoReopening (s : TaskState) : TaskLabel → Prop
  | .openBlock task _ call => ¬ Reopens s.world task call
  | _ => True

/-- The task whose stack a step may change. -/
def TaskLabel.actor : TaskLabel → Option Nat
  | .spawn _ child => some child
  | .openBlock task _ _ => some task
  | .closeBlock task _ _ => some task
  | .edit _ _ _ => none
  | .inject _ _ => none
  | .receive _ _ => none
  | .wait _ => none

/-- Every real span is in exactly one segment, once, and that segment was archived once. -/
def World.Accounted (w : World) : Prop :=
  ∀ x < w.spans.size, (w.span x).cls ≠ .NoopSpan →
    (∀ c, (w.context c).segment.spans.count x = if c = (w.span x).context then 1 else 0) ∧
      w.archived.count (w.span x).context = 1

/-- No two real spans of a segment have the same number. -/
def World.SidsUnique (w : World) : Prop :=
  ∀ x < w.spans.size, ∀ y < w.spans.size, (w.span x).cls ≠ .NoopSpan → (w.span y).cls ≠ .NoopSpan →
    (w.span x).context = (w.span y).context → (w.span x).sid = (w.span y).sid → x = y

/-- A step archives nothing, or it closes the last open span of a segment that was not archived before
and archives that. -/
def ArchivesLast (s : TaskState) (label : TaskLabel) (s' : TaskState) : Prop :=
  s'.world.archived = s.world.archived ∨
    ∃ task answers raised span, label = .closeBlock task answers raised ∧
      s.blocks.find? (·.1 = task) = some (task, span) ∧
      s'.world.archived = s.world.archived ++ [(s.world.span span).context] ∧
      (s.world.span span).context ∉ s.world.archived ∧
      (s.world.span span).depth = 1 ∧
      ∀ x < s.world.spans.size, (s.world.span x).context = (s.world.span span).context → x ≠ span →
        (s.world.span x).depth = 0

/-- A span that a step creates with a parent number has an open parent in its own segment. -/
def ParentsOpen (s s' : TaskState) : Prop :=
  ∀ x, s.world.spans.size ≤ x → x < s'.world.spans.size → (s'.world.span x).pid ≠ -1 →
    ∃ p < s.world.spans.size, 0 < (s.world.span p).depth ∧
      (s'.world.span x).context = (s.world.span p).context ∧
      (s'.world.span x).pid = (s.world.span p).sid

/-- What identifies a span stays as it is. -/
def KeepsSpans (s s' : TaskState) : Prop :=
  ∀ x < s.world.spans.size,
    ((s'.world.span x).cls = .NoopSpan ↔ (s.world.span x).cls = .NoopSpan) ∧
    (s'.world.span x).context = (s.world.span x).context ∧
    (s'.world.span x).sid = (s.world.span x).sid ∧ (s'.world.span x).pid = (s.world.span x).pid

end SkyWalking
