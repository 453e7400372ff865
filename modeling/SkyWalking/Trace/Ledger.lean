import SkyWalking.Lib.Store
import Mathlib.Data.Finset.Card
import Mathlib.Tactic.Linarith

/-!
# What the span bookkeeping is for

A ledger keeps, for every span, the context that owns it, how often it is entered and its two numbers,
and for every context the open-span counter, the last number handed out and the spans that were
closed. A context whose counter falls to zero is archived.

Which segment is archived, when, and with which spans depends on the ledger alone. `World.ledger` forgets
what else the tracer keeps: tags, logs, references, carriers.
-/

namespace SkyWalking

structure Ledger.Span where
  noop : Bool
  context : Nat
  depth : Int
  sid : Int
  pid : Int

structure Ledger.Context where
  noop : Bool
  nspans : Int
  sid : Int
  spans : List Nat

namespace Ledger.Span

def enter (s : Ledger.Span) : Ledger.Span := { s with depth := s.depth + 1 }

def leave (s : Ledger.Span) : Ledger.Span := { s with depth := s.depth - 1 }

end Ledger.Span

namespace Ledger.Context

def next (c : Ledger.Context) : Ledger.Context := { c with sid := c.sid + 1 }

def opened (c : Ledger.Context) : Ledger.Context := { c with nspans := c.nspans + 1 }

/-- The last user of a span has left it; a noop context keeps no record. -/
def closed (c : Ledger.Context) (span : Nat) : Ledger.Context :=
  { c with
    nspans := c.nspans - 1
    spans := if c.noop then c.spans else c.spans ++ [span] }

end Ledger.Context

structure Ledger where
  spans : Store Ledger.Span
  contexts : Store Ledger.Context
  archived : List Nat

namespace Ledger

def span (l : Ledger) (address : Nat) : Span := l.spans.get address

def context (l : Ledger) (address : Nat) : Context := l.contexts.get address

def newContext (l : Ledger) (noop : Bool) : Ledger :=
  { l with contexts := l.contexts.alloc ⟨noop, 0, -1, []⟩ }

/-- A real span takes the next number of its context. -/
def create (l : Ledger) (context : Nat) (pid : Int) : Ledger :=
  { l with
    contexts := l.contexts.modify context Context.next
    spans := l.spans.alloc ⟨false, context, 0, (l.context context).sid + 1, pid⟩ }

def createNoop (l : Ledger) (context : Nat) : Ledger :=
  { l with spans := l.spans.alloc ⟨true, context, 0, -1, -1⟩ }

def enter (l : Ledger) (span : Nat) : Ledger :=
  { l with spans := l.spans.modify span Span.enter }

def leave (l : Ledger) (span : Nat) : Ledger :=
  { l with spans := l.spans.modify span Span.leave }

def opened (l : Ledger) (context : Nat) : Ledger :=
  { l with contexts := l.contexts.modify context Context.opened }

def closed (l : Ledger) (context span : Nat) : Ledger :=
  { l with
    contexts := l.contexts.modify context fun c => c.closed span
    archived :=
      if (l.context context).noop = false ∧ (l.context context).nspans = 1 then
        l.archived ++ [context]
      else l.archived }

def start (l : Ledger) (span : Nat) : Ledger :=
  if (l.span span).depth = 0 then (l.enter span).opened (l.span span).context else l.enter span

def stop (l : Ledger) (span : Nat) : Ledger :=
  if (l.span span).depth = 1 then (l.leave span).closed (l.span span).context span
  else l.leave span

/-- The spans of a context that are entered. -/
def openSpans (l : Ledger) (context : Nat) : Finset Nat :=
  (Finset.range l.spans.size).filter fun s =>
    (l.span s).context = context ∧ 0 < (l.span s).depth

/-- What every use of the API keeps. -/
structure Inv (l : Ledger) : Prop where
  context_lt : ∀ s < l.spans.size, (l.span s).context < l.contexts.size
  noop_eq : ∀ s < l.spans.size, (l.span s).noop = (l.context (l.span s).context).noop
  nspans_eq : ∀ c < l.contexts.size, (l.context c).nspans = (l.openSpans c).card
  sid_ge : ∀ c < l.contexts.size, -1 ≤ (l.context c).sid
  sid_nonneg : ∀ s < l.spans.size, (l.span s).noop = false → 0 ≤ (l.span s).sid
  sid_le : ∀ s < l.spans.size, (l.span s).noop = false →
    (l.span s).sid ≤ (l.context (l.span s).context).sid
  sid_inj : ∀ s < l.spans.size, ∀ s' < l.spans.size, (l.span s).noop = false →
    (l.span s').noop = false → (l.span s).context = (l.span s').context →
    (l.span s).sid = (l.span s').sid → s = s'

/-- What is kept as long as no span is entered again after it was closed and no archived context gets
another open span. -/
structure Sealed (l : Ledger) : Prop where
  nodup : ∀ c, (l.context c).spans.Nodup
  mem_lt : ∀ c, ∀ s ∈ (l.context c).spans, s < l.spans.size
  mem_context : ∀ c, ∀ s ∈ (l.context c).spans, (l.span s).context = c
  mem_closed : ∀ c, ∀ s ∈ (l.context c).spans, (l.span s).depth ≤ 0
  archived_lt : ∀ c ∈ l.archived, c < l.contexts.size
  archived_nodup : l.archived.Nodup
  archived_closed : ∀ c ∈ l.archived, (l.context c).nspans = 0
  archived_real : ∀ c ∈ l.archived, (l.context c).noop = false
  noop_nil : ∀ c, (l.context c).noop = true → (l.context c).spans = []

/-- Between the steps of tasks that open and close blocks nothing is missing: a real span that nobody is
inside is recorded, and its context is archived if no other span of it is open. -/
structure Whole (l : Ledger) : Prop where
  depth_nonneg : ∀ s < l.spans.size, 0 ≤ (l.span s).depth
  recorded : ∀ s < l.spans.size, (l.span s).noop = false → (l.span s).depth = 0 →
    s ∈ (l.context (l.span s).context).spans
  settled : ∀ s < l.spans.size, (l.span s).noop = false →
    (l.context (l.span s).context).nspans = 0 → (l.span s).context ∈ l.archived

/-- The three together. -/
structure Sound (l : Ledger) : Prop where
  inv : l.Inv
  sealed : l.Sealed
  whole : l.Whole

/-- The bookkeeping steps. -/
inductive Action where
  | newContext (noop : Bool)
  | create (context : Nat) (pid : Int)
  | createNoop (context : Nat)
  | start (span : Nat)
  | stop (span : Nat)

def apply (l : Ledger) : Action → Ledger
  | .newContext noop => l.newContext noop
  | .create context pid => l.create context pid
  | .createNoop context => l.createNoop context
  | .start span => l.start span
  | .stop span => l.stop span

/-- The objects that a step names exist, and a span is created by a context of its own sort. -/
def Enabled (l : Ledger) : Action → Prop
  | .newContext _ => True
  | .create context _ => context < l.contexts.size ∧ (l.context context).noop = false
  | .createNoop context => context < l.contexts.size ∧ (l.context context).noop = true
  | .start span => span < l.spans.size
  | .stop span => span < l.spans.size

def Step (l : Ledger) (action : Action) (l' : Ledger) : Prop :=
  l.Enabled action ∧ l' = l.apply action

/-- A span that nobody is inside is entered only if it was never closed and its context was not
archived. -/
def Fresh (l : Ledger) : Action → Prop
  | .start span => (l.span span).depth = 0 →
      span ∉ (l.context (l.span span).context).spans ∧ (l.span span).context ∉ l.archived
  | _ => True

theorem mem_openSpans {l : Ledger} {c s : Nat} :
    s ∈ l.openSpans c ↔
      s < l.spans.size ∧ (l.span s).context = c ∧ 0 < (l.span s).depth := by
  simp [openSpans]

end Ledger

end SkyWalking
