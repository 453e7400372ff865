import Mathlib.Data.Rat.Floor
import Mathlib.Tactic.Linarith
import SkyWalking.Lib.Run

/-!
# Generators that take items from a queue

A consumer pulls a generator when it likes. The generator reads a clock, and either returns or asks a queue
for an item, for at most a certain time; producers put items into the queue at any moment. Reading the
clock and asking the queue happen at one time.
-/

/-- A generator by what it does when it is pulled: `pull now locals` is the longest time for which it will
wait for an item, with its local variables from then on, or `none` if it returns. -/
structure Puller where
  Locals : Type
  init : Locals
  pull : ℚ → Locals → Option (ℚ × Locals)

namespace Puller

variable {α : Type}

inductive Phase (g : Puller) where
  /-- Not started, or stopped at a `yield`. -/
  | suspended (locals : g.Locals)
  | waiting (since timeout : ℚ) (locals : g.Locals)
  | returned

/-- `began` is the time of the first pull, `waits` holds the times at which the waits that are over began
and ended, and `taken` the items that the consumer was given. -/
structure State (g : Puller) (α : Type) where
  now : ℚ
  queue : List α
  phase : g.Phase
  began : Option ℚ
  waits : List (ℚ × ℚ)
  taken : List α

inductive Event (α : Type) where
  | pass (seconds : ℚ)
  | arrive (item : α)
  | pull
  /-- The queue hands over an item. -/
  | got
  /-- The queue gives up. -/
  | empty

variable (g : Puller)

def State.start (now : ℚ) : g.State α :=
  { now := now
    queue := []
    phase := .suspended g.init
    began := none
    waits := []
    taken := [] }

/-- A pull of a suspended generator. -/
def State.pulled (s : g.State α) (locals : g.Locals) : g.State α :=
  { s with
    phase := match g.pull s.now locals with
      | none => .returned
      | some (timeout, locals) => .waiting s.now timeout locals
    began := some (s.began.getD s.now) }

/-- The wait that began at `since` is over. -/
def State.waited (s : g.State α) (since : ℚ) (phase : g.Phase) : g.State α :=
  { s with
    phase := phase
    waits := s.waits ++ [(since, s.now)] }

/-- How long the queue may take to answer. -/
def patience (block : Bool) (timeout : ℚ) : ℚ := if block then timeout else 0

/-- A queue that does not block answers at once, one that blocks within the time it was given. -/
def State.step (block : Bool) (s : g.State α) : Event α → Option (g.State α)
  | .pass seconds => if 0 ≤ seconds then some { s with now := s.now + seconds } else none
  | .arrive item => some { s with queue := s.queue ++ [item] }
  | .pull => match s.phase with
      | .suspended locals => some (s.pulled g locals)
      | _ => none
  | .got => match s.phase, s.queue with
      | .waiting since timeout locals, item :: rest =>
          if s.now ≤ since + patience block timeout then
            some { s.waited g since (.suspended locals) with
              queue := rest
              taken := s.taken ++ [item] }
          else none
      | _, _ => none
  | .empty => match s.phase, s.queue with
      | .waiting since timeout _, [] =>
          if s.now ≤ since + patience block timeout then some (s.waited g since .returned)
          else none
      | _, _ => none

def Step (block : Bool) (s : g.State α) (event : Event α) (s' : g.State α) : Prop :=
  s.step g block event = some s'

/-- What is promised about the times at which waits may end, and about pulls from `deadline` on, the
first pull excepted. -/
structure State.Keeps (block : Bool) (ends : ℚ → Prop) (deadline : ℚ) (s : g.State α) : Prop where
  waits : ∀ wait ∈ s.waits, ends wait.2
  late : ∀ locals, s.phase = .suspended locals → s.began.isSome → deadline ≤ s.now →
    s.step g block .pull = some { s with phase := .returned }

/-- An answer to a pull at `now` after which the locals are marked and the wait ends well. -/
structure Grants (ends : ℚ → Prop) (Marked : g.Locals → Prop) (now timeout : ℚ)
    (locals : g.Locals) : Prop where
  marked : Marked locals
  timeout_nonneg : 0 ≤ timeout
  ends_of_le : ∀ e ≤ now + timeout, ends e

/-- A batch that begins at `origin` marks the locals; marked locals make pulls from `deadline` on
return. -/
structure Times (origin deadline : ℚ) (ends : ℚ → Prop) (Marked : g.Locals → Prop) : Prop where
  first : ∀ timeout locals, g.pull origin g.init = some (timeout, locals) →
    g.Grants ends Marked origin timeout locals
  again : ∀ now, origin ≤ now → ∀ old, Marked old → ∀ timeout locals,
    g.pull now old = some (timeout, locals) → g.Grants ends Marked now timeout locals
  late : ∀ now, deadline ≤ now → ∀ locals, Marked locals → g.pull now locals = none

/-- The part of the invariant that depends on the phase. -/
def PhaseOk (ends : ℚ → Prop) (Marked : g.Locals → Prop) : g.Phase → Prop
  | .suspended locals => Marked locals
  | .waiting since timeout locals => g.Grants ends Marked since timeout locals
  | .returned => True

/-- The invariant of the runs whose batch has not begun yet or has begun at `origin`. -/
structure InTime (origin : ℚ) (ends : ℚ → Prop) (Marked : g.Locals → Prop) (s : g.State α) :
    Prop where
  before : s.began = none → s.phase = .suspended g.init ∧ s.waits = []
  elapsed : s.began = some origin → origin ≤ s.now
  waits : s.began = some origin → ∀ wait ∈ s.waits, ends wait.2
  phase : s.began = some origin → g.PhaseOk ends Marked s.phase

theorem patience_nonneg {timeout : ℚ} (h : 0 ≤ timeout) (block : Bool) :
    0 ≤ patience block timeout := by
  unfold patience
  split
  · exact h
  · exact le_refl 0

variable {g} {origin deadline : ℚ} {ends : ℚ → Prop} {Marked : g.Locals → Prop} {block : Bool}
  {s s' : g.State α}

theorem Grants.ends_of_answered {now since timeout : ℚ} {locals : g.Locals}
    (h : g.Grants ends Marked since timeout locals)
    (hle : now ≤ since + patience block timeout) : ends now := by
  have hnonneg := h.timeout_nonneg
  have hpatience : patience block timeout ≤ timeout := by
    unfold patience
    split
    · exact le_refl _
    · exact hnonneg
  apply h.ends_of_le
  linarith

/-- A generator that returns at once did not ask for an item. -/
theorem State.Keeps.pull_eq_none (h : s.Keeps g block ends deadline) {locals : g.Locals}
    (hphase : s.phase = .suspended locals) (hbegan : s.began.isSome) (hlate : deadline ≤ s.now) :
    g.pull s.now locals = none := by
  have hstep := h.late locals hphase hbegan hlate
  simp only [State.step, hphase, Option.some.injEq] at hstep
  have hreturned := congrArg State.phase hstep
  simp only [State.pulled] at hreturned
  cases hpull : g.pull s.now locals with
  | none => rfl
  | some answer =>
      rw [hpull] at hreturned
      cases hreturned

theorem InTime.pulled (htimes : g.Times origin deadline ends Marked)
    (h : InTime g origin ends Marked s) {locals : g.Locals} (hphase : s.phase = .suspended locals) :
    InTime g origin ends Marked (s.pulled g locals) := by
  have hgrants : ∀ timeout locals', s.began.getD s.now = origin →
      g.pull s.now locals = some (timeout, locals') →
        g.Grants ends Marked s.now timeout locals' := by
    intro timeout locals' hstart hpull
    cases hbegan : s.began with
    | none =>
        rw [hbegan] at hstart
        obtain ⟨hinit, -⟩ := h.before hbegan
        rw [hphase, Phase.suspended.injEq] at hinit
        change s.now = origin at hstart
        rw [hstart, hinit] at hpull
        rw [hstart]
        exact htimes.first timeout locals' hpull
    | some began =>
        rw [hbegan] at hstart
        obtain rfl : began = origin := hstart
        have hmarked := h.phase hbegan
        rw [hphase] at hmarked
        exact htimes.again s.now (h.elapsed hbegan) locals hmarked timeout locals' hpull
  constructor
  · intro hbegan
    cases hbegan
  · intro hbegan
    have hstart : s.began.getD s.now = origin := Option.some.inj hbegan
    cases hold : s.began with
    | none =>
        rw [hold] at hstart
        exact hstart.ge
    | some began =>
        rw [hold] at hstart
        exact h.elapsed (hold.trans (congrArg some hstart))
  · intro hbegan
    have hstart : s.began.getD s.now = origin := Option.some.inj hbegan
    cases hold : s.began with
    | none =>
        intro wait hwait
        rw [State.pulled, (h.before hold).2] at hwait
        cases hwait
    | some began =>
        rw [hold] at hstart
        exact h.waits (hold.trans (congrArg some hstart))
  · intro hbegan
    have hstart : s.began.getD s.now = origin := Option.some.inj hbegan
    unfold State.pulled
    cases hpull : g.pull s.now locals with
    | none => trivial
    | some answer => exact hgrants answer.1 answer.2 hstart hpull

theorem InTime.waited (h : InTime g origin ends Marked s) {since timeout : ℚ} {locals : g.Locals}
    (hphase : s.phase = .waiting since timeout locals)
    (hle : s.now ≤ since + patience block timeout) {phase : g.Phase}
    (hnext : Marked locals → g.PhaseOk ends Marked phase) :
    InTime g origin ends Marked (s.waited g since phase) := by
  have hgrants : s.began = some origin → g.Grants ends Marked since timeout locals := by
    intro hbegan
    have hok := h.phase hbegan
    rwa [hphase] at hok
  constructor
  · intro hbegan
    have hinit := (h.before hbegan).1
    rw [hphase] at hinit
    cases hinit
  · exact h.elapsed
  · intro hbegan wait hwait
    obtain hold | hnew := List.mem_append.mp hwait
    · exact h.waits hbegan wait hold
    · rw [List.mem_singleton.mp hnew]
      exact (hgrants hbegan).ends_of_answered hle
  · exact fun hbegan => hnext (hgrants hbegan).marked

theorem InTime.step (htimes : g.Times origin deadline ends Marked)
    (h : InTime g origin ends Marked s) {event : Event α} (hstep : s.step g block event = some s') :
    InTime g origin ends Marked s' := by
  cases event with
  | pass seconds =>
      dsimp only [State.step] at hstep
      split at hstep
      · next hforward =>
        cases hstep
        exact ⟨h.before, fun hbegan => (h.elapsed hbegan).trans (le_add_of_nonneg_right hforward),
          h.waits, h.phase⟩
      · cases hstep
  | arrive item =>
      cases hstep
      exact ⟨h.before, h.elapsed, h.waits, h.phase⟩
  | pull =>
      dsimp only [State.step] at hstep
      split at hstep
      · next locals hphase =>
        cases hstep
        exact h.pulled htimes hphase
      · cases hstep
  | got =>
      dsimp only [State.step] at hstep
      split at hstep
      · next since timeout locals item rest hphase _ =>
        split at hstep
        · next hle =>
          cases hstep
          have hnext : Marked locals → g.PhaseOk ends Marked (.suspended locals) := id
          have hwaited := h.waited hphase hle hnext
          exact ⟨hwaited.before, hwaited.elapsed, hwaited.waits, hwaited.phase⟩
        · cases hstep
      · cases hstep
  | empty =>
      dsimp only [State.step] at hstep
      split at hstep
      · next since timeout locals hphase _ =>
        split at hstep
        · next hle =>
          cases hstep
          exact h.waited hphase hle fun _ => trivial
        · cases hstep
      · cases hstep

theorem InTime.start (now : ℚ) :
    InTime g origin ends Marked (State.start g now : g.State α) where
  before _ := ⟨rfl, rfl⟩
  elapsed hbegan := by cases hbegan
  waits hbegan := by cases hbegan
  phase hbegan := by cases hbegan

/-- A batch that begins at `origin` is in time, whatever the consumer and the producers do. -/
theorem Times.keeps (htimes : g.Times origin deadline ends Marked) {now : ℚ} {events : List (Event α)}
    (hrun : Run (g.Step block) (State.start g now) events s) (hbegan : s.began = some origin) :
    s.Keeps g block ends deadline := by
  have h : InTime g origin ends Marked s :=
    hrun.invariant (fun _ _ _ h hstep => h.step htimes hstep) (.start now)
  refine ⟨h.waits hbegan, fun locals hphase _ hlate => ?_⟩
  have hmarked := h.phase hbegan
  rw [hphase] at hmarked
  have hnone := htimes.late s.now hlate locals hmarked
  simp only [State.step, hphase, State.pulled, hnone, hbegan, Option.getD_some]

end Puller
