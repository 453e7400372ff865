import SkyWalking.Trace.Context

/-!
# Programs made of span blocks

A block is `with get_context().new_*_span(...) as span:` followed by its body. What the sampler, the
ignore pattern and the reporter queue answer is part of a program, one set of answers for each block,
and so is the way its control flow went: every execution of a source program in one task unfolds to
one of these trees.
-/

namespace SkyWalking

/-- What the world outside says to one block. `stopFull` is the answer of the reporter queue when the
block closes its segment, `traceback` the text of `sw_traceback()`. -/
structure BlockAnswers where
  sampled : Bool
  ignored : Bool
  queueFull : Bool
  stopFull : Bool
  traceback : String
  deriving DecidableEq, Repr

def BlockAnswers.toAnswers (answers : BlockAnswers) : Answers :=
  { ignored := answers.ignored
    queueFull := answers.queueFull }

/-- The head of a block: the context, the span, and `__enter__`. -/
def openBlock (env : Env) (task : Nat) (answers : BlockAnswers) (call : Call) (w : World) :
    World × Except PyError Nat :=
  let (w, context) := getContext env task answers.sampled w
  match call.run env task context answers.toAnswers w with
  | (w, .error error) => (w, .error error)
  | (w, .ok span) => (Span.start task span w, .ok span)

/-- An exception on its way: `__exit__` makes a note of the subclasses of `Exception` only. -/
inductive Raised where
  | exception
  | baseException
  deriving DecidableEq, Repr

/-- `__exit__` up to the call of `stop`. -/
def noteRaised (env : Env) (answers : BlockAnswers) (span : Nat) (raised : Option Raised)
    (w : World) : World :=
  if raised = some .exception then Span.raised env answers.traceback span w else w

/-- What a body does to the span of a block that it is in. -/
inductive Edit where
  | op (op : String)
  | peer (peer : Option String)
  | component (component : Component)
  | layer (layer : Layer)
  | tag (tag : Tag)
  | log (text : String)
  deriving DecidableEq, Repr

def Edit.run (env : Env) (span : Nat) (w : World) : Edit → World × Except PyError Unit
  | .op value => (w.modifySpan span fun span => { span with op := value }, .ok ())
  | .peer value => (w.modifySpan span fun span => { span with peer := value }, .ok ())
  | .component value => (w.modifySpan span fun span => { span with component := value }, .ok ())
  | .layer value => (w.modifySpan span fun span => { span with layer := value }, .ok ())
  | .tag value => Span.tag value span w
  | .log text => (Span.log env text span w, .ok ())

/-- `edit` names the block by its distance from the innermost one. -/
inductive Prog where
  | skip
  | wait (seconds : ℚ)
  | raise (raised : Raised)
  | edit (distance : Nat) (change : Edit)
  | seq (first second : Prog)
  | tryExcept (body handler : Prog)
  | tryFinally (body final : Prog)
  | block (call : Call) (answers : BlockAnswers) (body : Prog)

/-- What one block did: the worlds around it, the last one before `stop`, its span, that of the
innermost block around it, and the real spans that were created and closed in it. -/
structure BlockRecord where
  before : World
  inside : World
  after : World
  span : Nat
  enclosing : Option Nat
  created : List (Nat × Option Nat)
  closed : List Nat

/-- What an execution leaves behind. `created` pairs each real span, in the order of creation, with the
span of the innermost block around the one that created it; `closed` lists them in the order in which
their last user left. -/
structure Result where
  world : World
  raised : Option Raised
  created : List (Nat × Option Nat)
  closed : List Nat
  blocks : List BlockRecord

namespace Result

def quiet (w : World) (raised : Option Raised) : Result :=
  { world := w
    raised := raised
    created := []
    closed := []
    blocks := [] }

/-- The records of two executions, one after the other. -/
def andThen (first second : Result) (raised : Option Raised) : Result :=
  { world := second.world
    raised := raised
    created := first.created ++ second.created
    closed := first.closed ++ second.closed
    blocks := first.blocks ++ second.blocks }

/-- A block around an execution. A block that reuses a span neither creates nor closes one, and a noop
span leaves no trace. -/
def around (before inside after : World) (span : Nat) (enclosing : Option Nat) (body : Result) :
    Result :=
  let own := before.spans.size ≤ span ∧ (inside.span span).cls ≠ .NoopSpan
  let created := if own then (span, enclosing) :: body.created else body.created
  let closed := if own then body.closed ++ [span] else body.closed
  { world := after
    raised := body.raised
    created := created
    closed := closed
    blocks := body.blocks ++ [
      { before := before
        inside := inside
        after := after
        span := span
        enclosing := enclosing
        created := created
        closed := closed }] }

end Result

namespace Prog

/-- `spans` are the spans of the blocks around the program, innermost first. -/
def exec (env : Env) (task : Nat) : Prog → List Nat → World → Result
  | skip, _, w => .quiet w none
  | wait seconds, _, w => .quiet { w with now := w.now + seconds } none
  | raise raised, _, w => .quiet w (some raised)
  | edit distance change, spans, w =>
      match spans[distance]? with
      | none => .quiet w none
      | some span =>
          match change.run env span w with
          | (w, .ok ()) => .quiet w none
          | (w, .error _) => .quiet w (some .exception)
  | seq first second, spans, w =>
      let result := exec env task first spans w
      match result.raised with
      | some _ => result
      | none =>
          let next := exec env task second spans result.world
          result.andThen next next.raised
  | tryExcept body handler, spans, w =>
      let result := exec env task body spans w
      match result.raised with
      | some .exception =>
          let next := exec env task handler spans result.world
          result.andThen next next.raised
      | _ => result
  | tryFinally body final, spans, w =>
      let result := exec env task body spans w
      let next := exec env task final spans result.world
      result.andThen next (next.raised.orElse fun _ => result.raised)
  | block call answers body, spans, w =>
      match openBlock env task answers call w with
      | (w', .error _) => .quiet w' (some .exception)
      | (w', .ok span) =>
          let result := exec env task body (span :: spans) w'
          let inside := noteRaised env answers span result.raised result.world
          let after := (Span.stop task span answers.stopFull inside).1
          Result.around w inside after span spans.head? result

/-- The carriers that a program hands to its entry blocks. -/
def carriers : Prog → List Nat
  | seq first second => first.carriers ++ second.carriers
  | tryExcept body handler => body.carriers ++ handler.carriers
  | tryFinally body final => body.carriers ++ final.carriers
  | block (.newEntrySpan _ carrier _) _ body => carrier.toList ++ body.carriers
  | block _ _ body => body.carriers
  | _ => []

end Prog

namespace BlockRecord

/-- The context of the span of a block. -/
def context (b : BlockRecord) : Nat := (b.after.span b.span).context

/-- What an outermost block with a real span owes: one call of `archive_segment`, made when it exits,
for a segment that holds what was created in it. -/
structure ArchivedOnce (b : BlockRecord) : Prop where
  not_before : b.inside.archived = b.before.archived
  at_exit : b.after.archived = b.before.archived ++ [b.context]
  spans_eq : (b.after.context b.context).segment.spans = b.closed
  nodup : b.closed.Nodup
  root_last : b.closed.getLast? = some b.span
  mem_closed : ∀ s, s ∈ b.closed ↔ b.before.spans.size ≤ s ∧ s < b.after.spans.size ∧
    (b.after.span s).cls ≠ .NoopSpan
  closed_perm : b.closed.Perm (b.created.map Prod.fst)
  creation_order : (b.created.map Prod.fst).Pairwise (· < ·)
  sids : b.created.map (fun p => (b.after.span p.1).sid) =
    (List.range b.created.length).map fun i : Nat => (i : Int)
  pid_root : ∀ p ∈ b.created, (b.after.span p.1).pid = -1 ↔ p.1 = b.span
  pid_parent : ∀ p ∈ b.created, p.1 ≠ b.span →
    ∃ e, p.2 = some e ∧ (b.after.span p.1).pid = (b.after.span e).sid

/-- A block that leaves no trace. -/
structure NoTrace (b : BlockRecord) : Prop where
  noop : (b.after.span b.span).cls = .NoopSpan
  created : b.created = []
  closed : b.closed = []
  new_noop : ∀ s, b.before.spans.size ≤ s → s < b.after.spans.size →
    (b.after.span s).cls = .NoopSpan
  spans_eq : ∀ c < b.before.contexts.size,
    (b.after.context c).segment.spans = (b.before.context c).segment.spans
  archived_eq : b.after.archived = b.before.archived

end BlockRecord

/-- The answers of a sampler that takes everything and a queue that is never full. -/
def BlockAnswers.permissive : BlockAnswers :=
  { sampled := true
    ignored := false
    queueFull := false
    stopFull := false
    traceback := "" }

/-- A request handler whose database call raises. -/
def Prog.sample : Prog :=
  .block (.newEntrySpan "/users" none none) .permissive
    (.tryExcept
      (.block (.newExitSpan "select" (some "db:5432") (some .Psycopg) none) .permissive
        (.raise .exception))
      .skip)

/-- A carrier from which a reference can be built, or which asks for none. -/
def Carrier.Readable (carrier : Carrier) : Prop :=
  carrier.isValid = .ok false ∨
    carrier.isValid = .ok true ∧ ∃ number, carrier.spanId.toInt = .ok number

end SkyWalking
