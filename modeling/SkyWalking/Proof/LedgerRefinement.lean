import SkyWalking.Trace.Context
import SkyWalking.Proof.LedgerLemmas

/-!
# The trace code keeps a ledger

`World.ledger` forgets everything but the numbers. Each operation of the trace code is then one or two
ledger steps, as an equation, and changes at most the stack of the task that calls it.
-/

namespace SkyWalking

def Span.toLedger (span : Span) : Ledger.Span :=
  { noop := span.cls = .NoopSpan
    context := span.context
    depth := span.depth
    sid := span.sid
    pid := span.pid }

def SpanContext.toLedger (context : SpanContext) : Ledger.Context :=
  { noop := context.noop
    nspans := context.nspans
    sid := context.sid
    spans := context.segment.spans }

namespace World

def ledger (w : World) : Ledger :=
  { spans := w.spans.map Span.toLedger
    contexts := w.contexts.map SpanContext.toLedger
    archived := w.archived }

@[simp]
theorem ledger_span (w : World) (s : Nat) : w.ledger.span s = (w.span s).toLedger := rfl

@[simp]
theorem ledger_context (w : World) (c : Nat) : w.ledger.context c = (w.context c).toLedger := rfl

@[simp]
theorem ledger_spans_size (w : World) : w.ledger.spans.size = w.spans.size := rfl

theorem ledger_modifySpan_of_eq (w : World) (s : Nat) {f : Span → Span}
    (hsame : (f (w.span s)).toLedger = (w.span s).toLedger) :
    (w.modifySpan s f).ledger = w.ledger := by
  simp only [ledger, modifySpan, Ledger.mk.injEq, and_true]
  exact Store.map_modify_of_eq _ _ _ _ hsame

theorem ledger_modifyContext_of_eq (w : World) (c : Nat) {f : SpanContext → SpanContext}
    (hsame : (f (w.context c)).toLedger = (w.context c).toLedger) :
    (w.modifyContext c f).ledger = w.ledger := by
  simp only [ledger, modifyContext, Ledger.mk.injEq, true_and, and_true]
  exact Store.map_modify_of_eq _ _ _ _ hsame

theorem ledger_modifyContext (w : World) (c : Nat) {f : SpanContext → SpanContext}
    (f' : Ledger.Context → Ledger.Context)
    (hcomm : (f (w.context c)).toLedger = f' (w.context c).toLedger) :
    (w.modifyContext c f).ledger = { w.ledger with contexts := w.ledger.contexts.modify c f' } := by
  simp only [ledger, modifyContext, Ledger.mk.injEq, true_and, and_true]
  exact Store.map_modify _ _ _ _ _ hcomm

theorem relate_spans (segment : Segment) (traceId : ID) :
    (segment.relate traceId).spans = segment.spans := by
  unfold Segment.relate
  split <;> rfl

section Attributes

variable (w : World) (address : Nat)

@[simp]
theorem ledger_relate (traceId : ID) :
    (w.modifyContext address (SpanContext.relate traceId)).ledger = w.ledger := by
  refine ledger_modifyContext_of_eq w address ?_
  simp only [SpanContext.toLedger, SpanContext.relate, relate_spans]

@[simp]
theorem ledger_withCorrelation (correlation : Nat) :
    (w.modifyContext address (SpanContext.withCorrelation correlation)).ledger = w.ledger :=
  ledger_modifyContext_of_eq w address rfl

@[simp]
theorem ledger_withPrimary (primaryEndpoint : Option Nat) :
    (w.modifyContext address (SpanContext.withPrimary primaryEndpoint)).ledger = w.ledger :=
  ledger_modifyContext_of_eq w address rfl

@[simp]
theorem ledger_sizeLimited (full : Bool) :
    (w.modifyContext address (SpanContext.sizeLimited full)).ledger = w.ledger :=
  ledger_modifyContext_of_eq w address rfl

@[simp]
theorem ledger_addRef (ref : SegmentRef) :
    (w.modifySpan address (Span.addRef ref)).ledger = w.ledger :=
  ledger_modifySpan_of_eq w address rfl

@[simp]
theorem ledger_startedAt (now : ℚ) : (w.modifySpan address (Span.startedAt now)).ledger = w.ledger :=
  ledger_modifySpan_of_eq w address rfl

@[simp]
theorem ledger_endedAt (now : ℚ) : (w.modifySpan address (Span.endedAt now)).ledger = w.ledger :=
  ledger_modifySpan_of_eq w address rfl

@[simp]
theorem ledger_restarted : (w.modifySpan address Span.restarted).ledger = w.ledger :=
  ledger_modifySpan_of_eq w address rfl

@[simp]
theorem ledger_entered : (w.modifySpan address Span.entered).ledger = w.ledger.enter address := by
  simp only [ledger, modifySpan, Ledger.enter, Ledger.mk.injEq, and_true]
  exact Store.map_modify _ _ _ _ _ rfl

@[simp]
theorem ledger_left : (w.modifySpan address Span.left).ledger = w.ledger.leave address := by
  simp only [ledger, modifySpan, Ledger.leave, Ledger.mk.injEq, and_true]
  exact Store.map_modify _ _ _ _ _ rfl

@[simp]
theorem ledger_countUp :
    (w.modifyContext address SpanContext.countUp).ledger = w.ledger.opened address :=
  ledger_modifyContext w address Ledger.Context.opened rfl

end Attributes

@[simp]
theorem ledger_bindList (w : World) (task : Nat) (spans : List Nat) :
    (w.bindList task spans).ledger = w.ledger := rfl

@[simp]
theorem ledger_spansGet (w : World) (task : Nat) : (w.spansGet task).ledger = w.ledger := by
  unfold spansGet
  split <;> rfl

@[simp]
theorem ledger_spansDup (w : World) (task : Nat) : (w.spansDup task).ledger = w.ledger := rfl

@[simp]
theorem ledger_modifyList (w : World) (task : Nat) (f : List Nat → List Nat) :
    (w.modifyList task f).ledger = w.ledger := by
  unfold modifyList
  split <;> rfl

/-- Context variables are bound to list objects that exist. -/
def VarsOk (w : World) : Prop := ∀ task list, w.vars task = some list → list < w.lists.size

theorem view_congr {w w' : World} (hlists : w'.lists = w.lists) (hvars : w'.vars = w.vars)
    (task : Nat) : w'.view task = w.view task := by
  simp only [view, hlists, hvars]

theorem VarsOk.congr {w w' : World} (hlists : w'.lists = w.lists) (hvars : w'.vars = w.vars)
    (hok : w.VarsOk) : w'.VarsOk := by
  intro task list hlist
  rw [hvars] at hlist
  rw [hlists]
  exact hok task list hlist

theorem VarsOk.bindList {w : World} (hok : w.VarsOk) (task : Nat) (spans : List Nat) :
    (w.bindList task spans).VarsOk := by
  intro t list hlist
  simp only [World.bindList, Function.update_apply] at hlist
  split at hlist
  · cases hlist
    exact Nat.lt_succ_self _
  · exact Nat.lt_succ_of_lt (hok t list hlist)

theorem view_bindList {w : World} (hok : w.VarsOk) (task : Nat) (spans : List Nat) (t : Nat) :
    (w.bindList task spans).view t = if t = task then spans else w.view t := by
  by_cases ht : t = task
  · subst ht
    simp [view, World.bindList]
  · have hvar : (w.bindList task spans).vars t = w.vars t := by
      simp [World.bindList, ht]
    rw [if_neg ht, view, view, hvar]
    cases hlist : w.vars t with
    | none => rfl
    | some list => exact w.lists.get_alloc_of_lt _ (hok t list hlist)

theorem VarsOk.spansGet {w : World} (hok : w.VarsOk) (task : Nat) : (w.spansGet task).VarsOk := by
  unfold World.spansGet
  split
  · exact hok
  · exact hok.bindList task []

@[simp]
theorem view_spansGet {w : World} (hok : w.VarsOk) (task t : Nat) :
    (w.spansGet task).view t = w.view t := by
  unfold World.spansGet
  split
  · rfl
  · next hnone =>
    rw [view_bindList hok]
    split
    · next heq => rw [heq, view, hnone]
    · rfl

/-- Every task sees the same stack as before, and every carrier is as it was. -/
structure Quiet (w w' : World) : Prop where
  varsOk : w'.VarsOk
  view_eq : ∀ task, w'.view task = w.view task
  carriers_eq : w'.carriers = w.carriers

namespace Quiet

variable {w w' w'' : World}

theorem of_eq (hok : w.VarsOk) (hlists : w'.lists = w.lists) (hvars : w'.vars = w.vars)
    (hcarriers : w'.carriers = w.carriers) : Quiet w w' where
  varsOk := hok.congr hlists hvars
  view_eq := view_congr hlists hvars
  carriers_eq := hcarriers

theorem refl (hok : w.VarsOk) : Quiet w w := of_eq hok rfl rfl rfl

theorem trans (h : Quiet w w') (h' : Quiet w' w'') : Quiet w w'' where
  varsOk := h'.varsOk
  view_eq task := (h'.view_eq task).trans (h.view_eq task)
  carriers_eq := h'.carriers_eq.trans h.carriers_eq

/-- Further changes outside the list objects. -/
theorem then_eq (h : Quiet w w') (hlists : w''.lists = w'.lists) (hvars : w''.vars = w'.vars)
    (hcarriers : w''.carriers = w'.carriers) : Quiet w w'' :=
  h.trans (of_eq h.varsOk hlists hvars hcarriers)

theorem spansGet (hok : w.VarsOk) (task : Nat) : Quiet w (w.spansGet task) where
  varsOk := hok.spansGet task
  view_eq := view_spansGet hok task
  carriers_eq := by
    unfold World.spansGet
    split <;> rfl

end Quiet

end World

open World

section Operations

variable (env : Env) (w : World)

theorem ledger_new : (SpanContext.new env w).1.ledger = w.ledger.newContext false := by
  simp only [ledger, SpanContext.new, Ledger.newContext, Store.map_alloc]
  rfl

theorem ledger_newNoop : (SpanContext.newNoop w).1.ledger = w.ledger.newContext true := by
  simp only [ledger, SpanContext.newNoop, Ledger.newContext, Store.map_alloc]
  rfl

theorem ledger_span_newNoop (context : Nat) :
    (Span.newNoop context w).1.ledger = w.ledger.createNoop context := by
  simp only [ledger, Span.newNoop, Span.alloc, Ledger.createNoop, Store.map_alloc]
  rfl

theorem ledger_idOf (rawId : String) : (Span.idOf env rawId w).1.ledger = w.ledger := by
  unfold Span.idOf
  split <;> rfl

theorem ledger_extractReal (span : Nat) (carrier : Carrier) :
    (Span.extractReal env span carrier w).1.ledger = w.ledger := by
  unfold Span.extractReal
  dsimp only
  split
  · simp [ledger_idOf]
  · simp [ledger_idOf]
  · split
    · simp [ledger_idOf]
    · split <;> simp [ledger_idOf]

theorem Quiet.extractReal {w : World} (hok : w.VarsOk) (span : Nat) (carrier : Carrier) :
    Quiet w (Span.extractReal env span carrier w).1 := by
  have hid : ∀ rawId, Quiet w (Span.idOf env rawId w).1 := by
    intro rawId
    unfold Span.idOf
    split <;> exact Quiet.of_eq hok rfl rfl rfl
  unfold Span.extractReal
  dsimp only
  split
  · exact (hid _).then_eq rfl rfl rfl
  · exact (hid _).then_eq rfl rfl rfl
  · split
    · exact (hid _).then_eq rfl rfl rfl
    · split <;> exact (hid _).then_eq rfl rfl rfl

/-- The number that a span created under `parent` carries as that of its parent. -/
def parentSid (parent : Option Nat) (w : World) : Int :=
  match parent with
  | none => -1
  | some parent => (w.span parent).sid

variable (self : Nat) (parent : Option Nat) (cls : SpanClass) (op : String) (peer : Option String)
  (component : Option Component)

theorem newSpan_of_not_finished (hopen : SpanContext.isFinished parent w = false) :
    SpanContext.newSpan env self parent cls op peer component w =
      ({ w with
          contexts := w.contexts.modify self SpanContext.nextSid
          spans := w.spans.alloc (Span.create cls self ((w.context self).sid + 1)
            (parentSid parent w) op peer component) }, .ok w.spans.size) := by
  unfold SpanContext.newSpan
  rw [hopen]
  cases parent with
  | none =>
      simp [Span.alloc, modifyContext, World.context, parentSid, SpanContext.nextSid]
  | some parent =>
      simp [Span.alloc, modifyContext, World.context, parentSid, World.span, SpanContext.nextSid]

theorem ledger_newSpan_of_not_finished (hcls : cls ≠ .NoopSpan)
    (hopen : SpanContext.isFinished parent w = false) :
    (SpanContext.newSpan env self parent cls op peer component w).1.ledger =
      w.ledger.create self (parentSid parent w) := by
  rw [newSpan_of_not_finished env w self parent cls op peer component hopen]
  simp only [ledger, Ledger.create, Store.map_alloc, Ledger.mk.injEq, and_true]
  refine ⟨?_, Store.map_modify _ _ _ _ _ rfl⟩
  congr 1
  simp [Span.toLedger, Span.create, hcls, Ledger.context, World.context, SpanContext.toLedger]

theorem newSpan_of_finished {parent : Nat} (hfinished : (w.span parent).depth = 0) :
    SpanContext.newSpan env self (some parent) cls op peer component w =
      let context := w.contexts.size
      let w' := (SpanContext.new env w).1.modifyContext context SpanContext.nextSid
      let w' := (Span.alloc (Span.create cls context 0 (-1) op peer component) w').1
      let outcome := Span.extractReal env w.spans.size (Span.carrierOf env parent w') w'
      (outcome.1, outcome.2.map fun _ => w.spans.size) := by
  have hdecide : SpanContext.isFinished (some parent) w = true := by
    simp [SpanContext.isFinished, hfinished]
  unfold SpanContext.newSpan
  rw [hdecide]
  simp [SpanContext.new, Span.alloc, modifyContext, World.context, SpanContext.nextSid]

theorem ledger_newSpan_of_finished {parent : Nat} (hcls : cls ≠ .NoopSpan)
    (hfinished : (w.span parent).depth = 0) :
    (SpanContext.newSpan env self (some parent) cls op peer component w).1.ledger =
      (w.ledger.newContext false).create w.contexts.size (-1) := by
  rw [newSpan_of_finished env w self cls op peer component hfinished]
  dsimp only
  rw [ledger_extractReal, ← ledger_new env w]
  simp only [ledger, Span.alloc, modifyContext, Ledger.create, Store.map_alloc, Ledger.mk.injEq,
    and_true]
  refine ⟨?_, Store.map_modify _ _ _ _ _ rfl⟩
  congr 1
  simp [Span.toLedger, Span.create, hcls, Ledger.context, SpanContext.toLedger, SpanContext.new,
    Store.get_alloc]

theorem quiet_newSpan (hok : w.VarsOk) :
    Quiet w (SpanContext.newSpan env self parent cls op peer component w).1 := by
  cases hfinished : SpanContext.isFinished parent w with
  | false =>
      rw [newSpan_of_not_finished env w self parent cls op peer component hfinished]
      exact Quiet.of_eq hok rfl rfl rfl
  | true =>
      cases parent with
      | none => cases hfinished
      | some parent =>
          have hdepth : (w.span parent).depth = 0 := by
            simpa [SpanContext.isFinished] using hfinished
          rw [newSpan_of_finished env w self cls op peer component hdepth]
          dsimp only
          refine Quiet.trans ?_ (Quiet.extractReal env ?_ _ _)
          · exact Quiet.of_eq hok rfl rfl rfl
          · exact hok

theorem ledger_inject (span : Nat) : (Span.inject env span w).1.ledger = w.ledger := by
  unfold Span.inject
  split <;> rfl

/-- A carrier is made outside the list objects. -/
theorem view_inject (hok : w.VarsOk) (span : Nat) :
    (Span.inject env span w).1.VarsOk ∧
      ∀ task, (Span.inject env span w).1.view task = w.view task := by
  unfold Span.inject
  split <;> exact ⟨hok.congr rfl rfl, view_congr rfl rfl⟩

theorem view_receiveCarrier (hok : w.VarsOk) (sw8 correlation : String) :
    (receiveCarrier env sw8 correlation w).1.VarsOk ∧
      ∀ task, (receiveCarrier env sw8 correlation w).1.view task = w.view task :=
  ⟨hok.congr rfl rfl, view_congr rfl rfl⟩

end Operations

/-- The reuse tests of `new_entry_span` and `new_exit_span`, for the span on top of the stack. -/
def Call.reuses (call : Call) (top : Span) : Prop :=
  match call with
  | .newLocalSpan _ => False
  | .newEntrySpan _ _ inherit => top.kind = .Entry ∧ inherit = some top.component
  | .newExitSpan _ _ component _ => top.kind = .Exit ∧ component = some top.inherit

/-- What one call does to the ledger, and which span it returns. -/
inductive Call.Effect (task self : Nat) (call : Call) (w w' : World) : Except PyError Nat → Prop where
  | noop : (w.context self).noop = true → w'.ledger = w.ledger.createNoop self →
      Effect task self call w w' (.ok w.spans.size)
  | suppressed : (w.context self).noop = false →
      w'.ledger = (w.ledger.newContext true).createNoop w.contexts.size →
      Effect task self call w w' (.ok w.spans.size)
  | failed (error : PyError) : w'.ledger = w.ledger → Effect task self call w w' (.error error)
  | reused (top : Nat) : (w.context self).noop = false → (w.view task).getLast? = some top →
      call.reuses (w.span top) → w'.ledger = w.ledger → Effect task self call w w' (.ok top)
  | created {outcome : Except PyError Nat} : (w.context self).noop = false →
      SpanContext.isFinished (w.view task).getLast? w = false →
      w'.ledger = w.ledger.create self (parentSid (w.view task).getLast? w) →
      (∀ span, outcome = .ok span → span = w.spans.size) →
      Effect task self call w w' outcome
  | detached (top : Nat) {outcome : Except PyError Nat} : (w.context self).noop = false →
      (w.view task).getLast? = some top → (w.span top).depth = 0 →
      w'.ledger = (w.ledger.newContext false).create w.contexts.size (-1) →
      (∀ span, outcome = .ok span → span = w.spans.size) →
      Effect task self call w w' outcome

theorem ignoreCheck_cases (answers : Answers) (carrier : Option Carrier) (w : World) :
    (∃ error, SpanContext.ignoreCheck answers carrier w = (w, .error error)) ∨
    SpanContext.ignoreCheck answers carrier w = (w, .ok none) ∨
    SpanContext.ignoreCheck answers carrier w =
      ((Span.newNoop w.contexts.size (SpanContext.newNoop w).1).1, .ok (some w.spans.size)) := by
  unfold SpanContext.ignoreCheck
  dsimp only
  split
  · next error _ => exact Or.inl ⟨error, rfl⟩
  · exact Or.inr (Or.inl rfl)
  · exact Or.inr (Or.inr rfl)

theorem isIgnored_of_ignoreCheck {answers : Answers} {carrier : Option Carrier}
    (h : SpanContext.ignoreCheck answers carrier w = (w, .ok none)) :
    SpanContext.isIgnored answers carrier = .ok false := by
  have houtcome : (SpanContext.ignoreCheck answers carrier w).2 = .ok none := congrArg Prod.snd h
  unfold SpanContext.ignoreCheck at houtcome
  dsimp only at houtcome
  split at houtcome
  · cases houtcome
  · next heq => exact heq
  · cases houtcome

theorem map_ok_eq {outcome : Except PyError Unit} {span created : Nat}
    (h : (outcome.map fun _ => created) = .ok span) : span = created := by
  cases outcome with
  | error error => cases h
  | ok _ => cases h; rfl

/-- The span that `new_span` returns is the one it creates. -/
theorem newSpan_ok (env : Env) (w : World) (self : Nat) (parent : Option Nat) (cls : SpanClass)
    (op : String) (peer : Option String) (component : Option Component) {span : Nat}
    (hspan : (SpanContext.newSpan env self parent cls op peer component w).2 = .ok span) :
    span = w.spans.size := by
  cases hfinished : SpanContext.isFinished parent w with
  | false =>
      rw [newSpan_of_not_finished env w self parent cls op peer component hfinished] at hspan
      cases hspan
      rfl
  | true =>
      cases parent with
      | none => cases hfinished
      | some parent =>
          have hdepth : (w.span parent).depth = 0 := by
            simpa [SpanContext.isFinished] using hfinished
          rw [newSpan_of_finished env w self cls op peer component hdepth] at hspan
          exact map_ok_eq hspan

section Call

variable {task self : Nat} {call : Call} {w w₁ w' : World}

/-- What follows `new_span` in a call may change attributes and may raise. -/
theorem Call.effect_of_newSpan (env : Env) (cls : SpanClass) (op : String) (peer : Option String)
    (component : Option Component) {outcome : Except PyError Nat} (hcls : cls ≠ .NoopSpan)
    (hreal : (w.context self).noop = false)
    (hspans : w₁.spans = w.spans) (hcontexts : w₁.contexts = w.contexts)
    (harchived : w₁.archived = w.archived)
    (hledger : w'.ledger = (SpanContext.newSpan env self (w.view task).getLast? cls op peer component
      w₁).1.ledger)
    (houtcome : ∀ span, outcome = .ok span → span = w.spans.size) :
    Call.Effect task self call w w' outcome := by
  have hsame : w₁.ledger = w.ledger := by
    simp only [ledger, hspans, hcontexts, harchived]
  have hspan : w₁.span = w.span := by
    funext s
    simp only [World.span, hspans]
  have hfinishedEq : ∀ parent, SpanContext.isFinished parent w₁ = SpanContext.isFinished parent w := by
    intro parent
    simp only [SpanContext.isFinished, hspan]
  cases hfinished : SpanContext.isFinished (w.view task).getLast? w with
  | false =>
      refine .created hreal hfinished ?_ houtcome
      rw [hledger, ledger_newSpan_of_not_finished env w₁ self _ cls op peer component hcls
        ((hfinishedEq _).trans hfinished), hsame]
      simp only [parentSid, hspan]
  | true =>
      cases htop : (w.view task).getLast? with
      | none =>
          rw [htop] at hfinished
          cases hfinished
      | some top =>
          have hdepth : (w.span top).depth = 0 := by
            simpa [htop, SpanContext.isFinished] using hfinished
          refine .detached top hreal htop hdepth ?_ houtcome
          rw [hledger, htop, ledger_newSpan_of_finished env w₁ self cls op peer component hcls
            (by rw [hspan]; exact hdepth), hsame, hcontexts]

theorem spansGet_spans (w : World) (task : Nat) : (w.spansGet task).spans = w.spans := by
  unfold spansGet
  split <;> rfl

theorem spansGet_contexts (w : World) (task : Nat) : (w.spansGet task).contexts = w.contexts := by
  unfold spansGet
  split <;> rfl

theorem spansGet_archived (w : World) (task : Nat) : (w.spansGet task).archived = w.archived := by
  unfold spansGet
  split <;> rfl

theorem spansGet_carriers (w : World) (task : Nat) : (w.spansGet task).carriers = w.carriers := by
  unfold spansGet
  split <;> rfl

theorem ledger_ignored (w : World) :
    (Span.newNoop w.contexts.size (SpanContext.newNoop w).1).1.ledger =
      (w.ledger.newContext true).createNoop w.contexts.size := by
  rw [ledger_span_newNoop, ledger_newNoop]

theorem Call.effect_newLocalSpan (env : Env) (task self : Nat) (answers : Answers) (op : String)
    (w : World) (call : Call) :
    Call.Effect task self call w (SpanContext.newLocalSpan env task self answers op w).1
      (SpanContext.newLocalSpan env task self answers op w).2 := by
  unfold SpanContext.newLocalSpan
  by_cases hnoop : (w.context self).noop = true
  · rw [if_pos hnoop]
    exact .noop hnoop (ledger_span_newNoop w self)
  · rw [if_neg hnoop]
    have hreal : (w.context self).noop = false := by simpa using hnoop
    rcases ignoreCheck_cases answers none w with ⟨error, h⟩ | h | h <;> rw [h]
    · exact .failed error rfl
    · exact Call.effect_of_newSpan env .Span op none none (by decide) hreal
        (spansGet_spans w task) (spansGet_contexts w task) (spansGet_archived w task) rfl
        (fun span hspan => by
          have hnew := newSpan_ok env _ self _ .Span op none none hspan
          rwa [spansGet_spans] at hnew)
    · exact .suppressed hreal (ledger_ignored w)

theorem spansGet_span (w : World) (task s : Nat) : (w.spansGet task).span s = w.span s := by
  simp only [World.span, spansGet_spans]

theorem isFinished_spansGet (w : World) (task : Nat) (parent : Option Nat) :
    SpanContext.isFinished parent (w.spansGet task) = SpanContext.isFinished parent w := by
  simp only [SpanContext.isFinished, spansGet_span]

theorem reusesEntry_spansGet (w : World) (task : Nat) (parent : Option Nat)
    (inherit : Option Component) :
    SpanContext.reusesEntry parent inherit (w.spansGet task) =
      SpanContext.reusesEntry parent inherit w := by
  simp only [SpanContext.reusesEntry, spansGet_span]

theorem Call.effect_newEntrySpan (env : Env) (task self : Nat) (answers : Answers) (op : String)
    (carrier : Option Nat) (inherit : Option Component) (w : World) :
    Call.Effect task self (.newEntrySpan op carrier inherit) w
      (SpanContext.newEntrySpan env task self answers op carrier inherit w).1
      (SpanContext.newEntrySpan env task self answers op carrier inherit w).2 := by
  unfold SpanContext.newEntrySpan
  by_cases hnoop : (w.context self).noop = true
  · rw [if_pos hnoop]
    exact .noop hnoop (ledger_span_newNoop w self)
  rw [if_neg hnoop]
  have hreal : (w.context self).noop = false := by simpa using hnoop
  rcases ignoreCheck_cases answers (carrier.map w.carriers.get) w with ⟨error, h⟩ | h | h <;> rw [h]
  · exact .failed error rfl
  · dsimp only [SpanContext.peek]
    split
    · next hreuse =>
      cases htop : (w.view task).getLast? with
      | none =>
          rw [htop] at hreuse
          cases hreuse
      | some top =>
          have htest : (w.span top).kind = .Entry ∧ inherit = some (w.span top).component := by
            simpa [htop, SpanContext.reusesEntry, spansGet_span] using hreuse
          refine .reused top hreal htop htest ?_
          rw [ledger_modifySpan_of_eq _ _ rfl, ledger_spansGet]
    · have heffect : ∀ {w' : World} {outcome : Except PyError Nat},
          w'.ledger = (SpanContext.newSpan env self (w.view task).getLast? .EntrySpan op none none
            (w.spansGet task)).1.ledger →
          (∀ span, outcome = .ok span → span = w.spans.size) →
          Call.Effect task self (.newEntrySpan op carrier inherit) w w' outcome :=
        Call.effect_of_newSpan env .EntrySpan op none none (by decide) hreal
          (spansGet_spans w task) (spansGet_contexts w task) (spansGet_archived w task)
      have hsize : ∀ span, (SpanContext.newSpan env self (w.view task).getLast? .EntrySpan op none
          none (w.spansGet task)).2 = .ok span → span = w.spans.size := by
        intro span hspan
        have hnew := newSpan_ok env _ self _ .EntrySpan op none none hspan
        rwa [spansGet_spans] at hnew
      split
      · next hnew => exact heffect (by rw [hnew]) (fun _ h => by cases h)
      · next span hnew =>
        rw [hnew] at hsize
        have hspan := hsize span rfl
        have hok : ∀ s, (Except.ok span : Except PyError Nat) = .ok s → s = w.spans.size := by
          intro s hs
          cases hs
          exact hspan
        split
        · exact heffect (by rw [hnew]) hok
        · split
          · exact heffect (by rw [hnew]) (fun _ h => by cases h)
          · exact heffect (by rw [hnew]) hok
          · exact heffect (by rw [ledger_extractReal, hnew])
              (fun s hs => (map_ok_eq hs).trans hspan)
  · exact .suppressed hreal (ledger_ignored w)

theorem Call.effect_newExitSpan (env : Env) (task self : Nat) (answers : Answers) (op : String)
    (peer : Option String) (component inherit : Option Component) (w : World) :
    Call.Effect task self (.newExitSpan op peer component inherit) w
      (SpanContext.newExitSpan env task self answers op peer component inherit w).1
      (SpanContext.newExitSpan env task self answers op peer component inherit w).2 := by
  unfold SpanContext.newExitSpan
  by_cases hnoop : (w.context self).noop = true
  · rw [if_pos hnoop]
    exact .noop hnoop (ledger_span_newNoop w self)
  rw [if_neg hnoop]
  have hreal : (w.context self).noop = false := by simpa using hnoop
  rcases ignoreCheck_cases answers none w with ⟨error, h⟩ | h | h <;> rw [h]
  · exact .failed error rfl
  · dsimp only [SpanContext.peek]
    by_cases hreuse :
        SpanContext.reusesExit (w.view task).getLast? component (w.spansGet task) = true
    · rw [if_pos hreuse]
      cases htop : (w.view task).getLast? with
      | none =>
          rw [htop] at hreuse
          cases hreuse
      | some top =>
          have htest : (w.span top).kind = .Exit ∧ component = some (w.span top).inherit := by
            simpa [htop, SpanContext.reusesExit, spansGet_span] using hreuse
          cases inherit with
          | none =>
              refine .reused top hreal htop htest ?_
              exact (ledger_modifySpan_of_eq _ _ rfl).trans (ledger_spansGet w task)
          | some inherit =>
              refine .reused top hreal htop htest ?_
              exact (ledger_modifySpan_of_eq _ _ rfl).trans
                ((ledger_modifySpan_of_eq _ _ rfl).trans (ledger_spansGet w task))
    · rw [if_neg hreuse]
      have heffect : ∀ {w' : World} {outcome : Except PyError Nat},
          w'.ledger = (SpanContext.newSpan env self (w.view task).getLast? .ExitSpan op peer component
            (w.spansGet task)).1.ledger →
          (∀ span, outcome = .ok span → span = w.spans.size) →
          Call.Effect task self (.newExitSpan op peer component inherit) w w' outcome :=
        Call.effect_of_newSpan env .ExitSpan op peer component (by decide) hreal
          (spansGet_spans w task) (spansGet_contexts w task) (spansGet_archived w task)
      have hsize : ∀ span, (SpanContext.newSpan env self (w.view task).getLast? .ExitSpan op peer
          component (w.spansGet task)).2 = .ok span → span = w.spans.size := by
        intro span hspan
        have hnew := newSpan_ok env _ self _ .ExitSpan op peer component hspan
        rwa [spansGet_spans] at hnew
      split
      · exact heffect rfl (fun _ h => by cases h)
      · next span hnew =>
        have hok : ∀ s, (Except.ok span : Except PyError Nat) = .ok s → s = w.spans.size := by
          intro s hs
          cases hs
          exact hsize span hnew
        cases inherit with
        | none => exact heffect rfl hok
        | some inherit => exact heffect (ledger_modifySpan_of_eq _ _ rfl) hok
  · exact .suppressed hreal (ledger_ignored w)

/-- **The six effects of a call.** -/
theorem Call.run_effect (env : Env) (task self : Nat) (answers : Answers) (w : World) (call : Call) :
    Call.Effect task self call w (call.run env task self answers w).1
      (call.run env task self answers w).2 := by
  cases call with
  | newLocalSpan op => exact Call.effect_newLocalSpan env task self answers op w _
  | newEntrySpan op carrier inherit =>
      exact Call.effect_newEntrySpan env task self answers op carrier inherit w
  | newExitSpan op peer component inherit =>
      exact Call.effect_newExitSpan env task self answers op peer component inherit w

section Rules

variable (env : Env) (task self : Nat) (answers : Answers) (op : String) {w : World}
  {P : World → Prop}

theorem newLocalSpan_rule (hnoop : P (Span.newNoop self w).1) (hsame : P w)
    (hignored : P (Span.newNoop w.contexts.size (SpanContext.newNoop w).1).1)
    (hnew : P (SpanContext.newSpan env self (w.view task).getLast? .Span op none none
      (w.spansGet task)).1) :
    P (SpanContext.newLocalSpan env task self answers op w).1 := by
  unfold SpanContext.newLocalSpan
  by_cases hreal : (w.context self).noop = true
  · rw [if_pos hreal]
    exact hnoop
  · rw [if_neg hreal]
    obtain ⟨error, h⟩ | h | h := ignoreCheck_cases answers none w <;> rw [h]
    · exact hsame
    · exact hnew
    · exact hignored

/-- A valid carrier is extracted into the new span, if a new one is made. -/
theorem newEntrySpan_made_rule (carrier : Option Nat) (inherit : Option Component)
    (hnoop : P (Span.newNoop self w).1) (hsame : P w)
    (hignored : P (Span.newNoop w.contexts.size (SpanContext.newNoop w).1).1)
    (hreused : ∀ parent, P ((w.spansGet task).modifySpan parent fun span => { span with op := op }))
    (hnew : P (SpanContext.newSpan env self (w.view task).getLast? .EntrySpan op none none
      (w.spansGet task)).1)
    (hextracted : ∀ a span w', carrier = some a →
      SpanContext.MakesEntry task self answers carrier inherit w →
      SpanContext.newSpan env self (w.view task).getLast? .EntrySpan op none none
        (w.spansGet task) = (w', .ok span) → (w'.carriers.get a).isValid = .ok true →
      P (Span.extractReal env span (w'.carriers.get a) w').1) :
    P (SpanContext.newEntrySpan env task self answers op carrier inherit w).1 := by
  unfold SpanContext.newEntrySpan
  by_cases hreal : (w.context self).noop = true
  · rw [if_pos hreal]
    exact hnoop
  · rw [if_neg hreal]
    obtain ⟨error, h⟩ | h | h := ignoreCheck_cases answers (carrier.map w.carriers.get) w <;> rw [h]
    · exact hsame
    · have hasked := isIgnored_of_ignoreCheck h
      dsimp only [SpanContext.peek]
      split
      · exact hreused _
      · next hreuse =>
        rw [reusesEntry_spansGet, Bool.not_eq_true] at hreuse
        replace hextracted := fun a span w' ha =>
          hextracted a span w' ha ⟨by simpa using hreal, hasked, hreuse⟩
        generalize SpanContext.newSpan env self (w.view task).getLast? .EntrySpan op none none
          (w.spansGet task) = result at hnew hextracted ⊢
        obtain ⟨w', outcome⟩ := result
        cases outcome with
        | error error => exact hnew
        | ok span =>
            cases carrier with
            | none => exact hnew
            | some a =>
                dsimp only
                split
                · exact hnew
                · exact hnew
                · next hvalid => exact hextracted a span w' rfl rfl hvalid
    · exact hignored

theorem newEntrySpan_rule (carrier : Option Nat) (inherit : Option Component)
    (hnoop : P (Span.newNoop self w).1) (hsame : P w)
    (hignored : P (Span.newNoop w.contexts.size (SpanContext.newNoop w).1).1)
    (hreused : ∀ parent, P ((w.spansGet task).modifySpan parent fun span => { span with op := op }))
    (hnew : P (SpanContext.newSpan env self (w.view task).getLast? .EntrySpan op none none
      (w.spansGet task)).1)
    (hextracted : ∀ a span w', carrier = some a →
      SpanContext.newSpan env self (w.view task).getLast? .EntrySpan op none none
        (w.spansGet task) = (w', .ok span) → (w'.carriers.get a).isValid = .ok true →
      P (Span.extractReal env span (w'.carriers.get a) w').1) :
    P (SpanContext.newEntrySpan env task self answers op carrier inherit w).1 :=
  newEntrySpan_made_rule env task self answers op carrier inherit hnoop hsame hignored hreused hnew
    fun a span w' ha _ => hextracted a span w' ha

/-- The `inherit` attribute is set on a reused and on a new span. -/
theorem newExitSpan_rule (peer : Option String) (component inherit : Option Component)
    (hnoop : P (Span.newNoop self w).1) (hsame : P w)
    (hignored : P (Span.newNoop w.contexts.size (SpanContext.newNoop w).1).1)
    (hreused : ∀ parent, P ((w.spansGet task).modifySpan parent fun span =>
      { span with op := op, peer := peer, component := component.getD .Unknown }))
    (hnew : P (SpanContext.newSpan env self (w.view task).getLast? .ExitSpan op peer component
      (w.spansGet task)).1)
    (hinherit : ∀ w' span inherit, P w' →
      P (w'.modifySpan span fun span => { span with inherit := inherit })) :
    P (SpanContext.newExitSpan env task self answers op peer component inherit w).1 := by
  unfold SpanContext.newExitSpan
  by_cases hreal : (w.context self).noop = true
  · rw [if_pos hreal]
    exact hnoop
  · rw [if_neg hreal]
    obtain ⟨error, h⟩ | h | h := ignoreCheck_cases answers none w <;> rw [h]
    · exact hsame
    · dsimp only [SpanContext.peek]
      by_cases hreuse :
          SpanContext.reusesExit (w.view task).getLast? component (w.spansGet task) = true
      · rw [if_pos hreuse]
        cases inherit with
        | none => exact hreused _
        | some inherit => exact hinherit _ _ inherit (hreused _)
      · rw [if_neg hreuse]
        generalize SpanContext.newSpan env self (w.view task).getLast? .ExitSpan op peer component
          (w.spansGet task) = result at hnew ⊢
        obtain ⟨w', outcome⟩ := result
        cases outcome with
        | error error => exact hnew
        | ok span =>
            cases inherit with
            | none => exact hnew
            | some inherit => exact hinherit _ _ inherit hnew
    · exact hignored

end Rules

/-- Asking for a span leaves every stack as it is. -/
theorem quiet_newLocalSpan (env : Env) {w : World} (hok : w.VarsOk) (task self : Nat)
    (answers : Answers) (op : String) :
    Quiet w (SpanContext.newLocalSpan env task self answers op w).1 := by
  have hget := Quiet.spansGet hok task
  exact newLocalSpan_rule env task self answers op (Quiet.of_eq hok rfl rfl rfl) (Quiet.refl hok)
    (Quiet.of_eq hok rfl rfl rfl)
    (hget.trans (quiet_newSpan env _ self _ .Span op none none hget.varsOk))

theorem quiet_newEntrySpan (env : Env) {w : World} (hok : w.VarsOk) (task self : Nat)
    (answers : Answers) (op : String) (carrier : Option Nat) (inherit : Option Component) :
    Quiet w (SpanContext.newEntrySpan env task self answers op carrier inherit w).1 := by
  have hget := Quiet.spansGet hok task
  have hnew := hget.trans
    (quiet_newSpan env _ self (w.view task).getLast? .EntrySpan op none none hget.varsOk)
  refine newEntrySpan_rule env task self answers op carrier inherit (Quiet.of_eq hok rfl rfl rfl)
    (Quiet.refl hok) (Quiet.of_eq hok rfl rfl rfl) (fun _ => hget.then_eq rfl rfl rfl) hnew ?_
  intro a span w' _ heq _
  rw [heq] at hnew
  exact hnew.trans (Quiet.extractReal env hnew.varsOk _ _)

theorem quiet_newExitSpan (env : Env) {w : World} (hok : w.VarsOk) (task self : Nat)
    (answers : Answers) (op : String) (peer : Option String) (component inherit : Option Component) :
    Quiet w (SpanContext.newExitSpan env task self answers op peer component inherit w).1 := by
  have hget := Quiet.spansGet hok task
  exact newExitSpan_rule env task self answers op peer component inherit
    (Quiet.of_eq hok rfl rfl rfl) (Quiet.refl hok) (Quiet.of_eq hok rfl rfl rfl)
    (fun _ => hget.then_eq rfl rfl rfl)
    (hget.trans (quiet_newSpan env _ self _ .ExitSpan op peer component hget.varsOk))
    (fun _ _ _ hquiet => hquiet.then_eq rfl rfl rfl)

theorem Call.run_quiet (env : Env) {w : World} (hok : w.VarsOk) (task self : Nat) (answers : Answers)
    (call : Call) : Quiet w (call.run env task self answers w).1 := by
  cases call with
  | newLocalSpan op => exact quiet_newLocalSpan env hok task self answers op
  | newEntrySpan op carrier inherit =>
      exact quiet_newEntrySpan env hok task self answers op carrier inherit
  | newExitSpan op peer component inherit =>
      exact quiet_newExitSpan env hok task self answers op peer component inherit

theorem quiet_getContext (env : Env) {w : World} (hok : w.VarsOk) (task : Nat) (sampled : Bool) :
    Quiet w (getContext env task sampled w).1 := by
  have hget := Quiet.spansGet hok task
  unfold getContext
  dsimp only
  split
  · exact hget
  · split
    · exact hget.then_eq rfl rfl rfl
    · exact hget.then_eq rfl rfl rfl

theorem ledger_contextStart (task c s : Nat) (w : World) :
    (SpanContext.start task c s w).ledger = w.ledger.opened c := by
  unfold SpanContext.start
  dsimp only
  split <;> simp

/-- The stack that `SpanContext.start` leaves behind. -/
def pushed (s : Nat) (stack : List Nat) : List Nat := if s ∈ stack then stack else stack ++ [s]

theorem SpanContext.start_eq (task c s : Nat) (w : World) :
    ∃ primary, SpanContext.start task c s w =
      (w.modifyContext c fun context => context.countUp.withPrimary primary).bindList task
        (pushed s (w.view task)) := by
  have hview : ((w.modifyContext c SpanContext.countUp).spansDup task).view task = w.view task := by
    simp only [World.spansDup, World.view, World.bindList, World.modifyContext, Function.update_self,
      Store.get_alloc_size]
  unfold SpanContext.start
  dsimp only
  rw [hview]
  by_cases hmem : s ∈ w.view task
  · rw [if_pos hmem, pushed, if_pos hmem]
    refine ⟨(w.context c).primaryEndpoint, ?_⟩
    have hsame : w.contexts.modify c SpanContext.countUp =
        w.contexts.modify c fun context =>
          context.countUp.withPrimary (w.context c).primaryEndpoint :=
      Store.modify_congr _ _ rfl
    simp only [World.modifyContext, ← hsame]
    rfl
  · rw [if_neg hmem, pushed, if_neg hmem]
    have happend : ((w.modifyContext c SpanContext.countUp).spansDup task).modifyList task
        (· ++ [s]) = (w.modifyContext c SpanContext.countUp).bindList task (w.view task ++ [s]) := by
      simp only [World.modifyList, World.spansDup, World.bindList, World.modifyContext,
        World.view, Function.update_self, Store.modify_alloc_size]
    rw [happend]
    refine ⟨SpanContext.primaryEndpointAfter s
      ((w.modifyContext c SpanContext.countUp).bindList task (w.view task ++ [s]))
      ((w.modifyContext c SpanContext.countUp).context c).primaryEndpoint, ?_⟩
    simp only [World.modifyContext, World.bindList, Store.modify_modify, World.context]

theorem ledger_start (task s : Nat) (w : World) :
    (Span.start task s w).ledger = w.ledger.start s := by
  -- what an entry span forgets is not in the ledger
  have hentry : ∀ w' : World,
      (if (w'.span s).cls = .EntrySpan then w'.modifySpan s Span.restarted else w').ledger =
        w'.ledger := by
    intro w'
    split <;> simp
  have hdepth : ((w.modifySpan s Span.entered).span s).depth = (w.span s).depth + 1 := by
    simp [World.span, modifySpan, Span.entered]
  have hcontext : ∀ now, (((w.modifySpan s Span.entered).modifySpan s (Span.startedAt now)).span
      s).context = (w.span s).context := by
    intro now
    simp [World.span, modifySpan, Span.entered, Span.startedAt]
  unfold Span.start Ledger.start
  dsimp only
  rw [hentry, hdepth]
  by_cases hzero : (w.span s).depth = 0
  · rw [if_pos (by omega), if_pos (show (w.ledger.span s).depth = 0 from hzero),
      ledger_contextStart, hcontext, ledger_startedAt, ledger_entered]
    rfl
  · rw [if_neg (by omega), if_neg (show ¬ (w.ledger.span s).depth = 0 from hzero), ledger_entered]

theorem toLedger_closed_of_noop {context : SpanContext} (hnoop : context.noop = true) (s : Nat) :
    context.countDown.toLedger = context.toLedger.closed s := by
  simp [SpanContext.toLedger, SpanContext.countDown, Ledger.Context.closed, hnoop]

theorem toLedger_closed_of_real {context : SpanContext} (hreal : context.noop = false) (s : Nat) :
    (context.archiveSpan s).countDown.toLedger = context.toLedger.closed s := by
  simp [SpanContext.toLedger, SpanContext.countDown, SpanContext.archiveSpan, Segment.archive,
    Ledger.Context.closed, hreal]

/-- The world in which the last-span test of `SpanContext.stop` is made. -/
def SpanContext.left (task c s : Nat) (w : World) : World :=
  ((Span.finish c s (w.spansDup task)).modifyList task (·.erase s)).modifyContext c
    SpanContext.countDown

theorem SpanContext.left_eq (task c s : Nat) (w : World) :
    SpanContext.left task c s w =
      ((w.modifySpan s (Span.endedAt w.now)).modifyContext c fun context =>
        (context.archiveSpan s).countDown).bindList task ((w.view task).erase s) := by
  simp [SpanContext.left, Span.finish, World.modifyList, World.spansDup, World.bindList,
    World.modifyContext, World.modifySpan, Store.modify_modify]

theorem SpanContext.stop_of_real (task c s : Nat) (queueFull : Bool) (w : World)
    (hreal : (w.context c).noop = false) :
    SpanContext.stop task c s queueFull w =
      let w' := SpanContext.left task c s w
      if (w.context c).nspans = 1 then
        ({ w'.modifyContext c (SpanContext.sizeLimited queueFull) with
            archived := w.archived ++ [c] }, true)
      else (w', false) := by
  have hcontext : (SpanContext.left task c s w).context c =
      ((w.context c).archiveSpan s).countDown := by
    simp [SpanContext.left_eq, World.context, World.bindList, World.modifyContext,
      World.modifySpan]
  have harchived : (SpanContext.left task c s w).archived = w.archived := by
    simp [SpanContext.left_eq, World.bindList, World.modifyContext, World.modifySpan]
  have hlast : ((SpanContext.left task c s w).context c).nspans = 0 ↔ (w.context c).nspans = 1 := by
    rw [hcontext]
    simp only [SpanContext.countDown, SpanContext.archiveSpan]
    omega
  have hstop : SpanContext.stop task c s queueFull w =
      if ((SpanContext.left task c s w).context c).nspans = 0 then
        ({ (SpanContext.left task c s w).modifyContext c (SpanContext.sizeLimited queueFull) with
            archived := (SpanContext.left task c s w).archived ++ [c] }, true)
      else (SpanContext.left task c s w, false) := by
    unfold SpanContext.stop
    rw [if_neg (by simp [hreal])]
    rfl
  rw [hstop, harchived]
  simp only [hlast]

theorem SpanContext.stop_of_noop (task c s : Nat) (queueFull : Bool) (w : World)
    (hnoop : (w.context c).noop = true) :
    (SpanContext.stop task c s queueFull w).1 =
      (w.modifyContext c SpanContext.countDown).bindList task ((w.view task).erase s) := by
  unfold SpanContext.stop
  rw [if_pos hnoop]
  simp [World.modifyList, World.spansDup, World.bindList, World.modifyContext]

theorem ledger_contextStop (task c s : Nat) (queueFull : Bool) (w : World) :
    (SpanContext.stop task c s queueFull w).1.ledger = w.ledger.closed c s := by
  cases hnoop : (w.context c).noop with
  | true =>
      have hkept : ¬ ((w.ledger.context c).noop = false ∧ (w.ledger.context c).nspans = 1) := by
        simp [SpanContext.toLedger, hnoop]
      rw [SpanContext.stop_of_noop task c s queueFull w hnoop]
      unfold Ledger.closed
      rw [if_neg hkept]
      rw [ledger_bindList, ledger_modifyContext w c (·.closed s) (toLedger_closed_of_noop hnoop s)]
  | false =>
      have hleft : (SpanContext.left task c s w).ledger =
          { w.ledger with
            contexts := w.ledger.contexts.modify c fun context => context.closed s } := by
        rw [SpanContext.left_eq, ledger_bindList,
          ledger_modifyContext _ c (·.closed s) (toLedger_closed_of_real hnoop s), ledger_endedAt]
      have htest : ((w.ledger.context c).noop = false ∧ (w.ledger.context c).nspans = 1) ↔
          (w.context c).nspans = 1 := by
        simp [SpanContext.toLedger, hnoop]
      rw [SpanContext.stop_of_real task c s queueFull w hnoop]
      unfold Ledger.closed
      simp only [htest]
      split
      · have hlimited := ledger_sizeLimited (SpanContext.left task c s w) c queueFull
        rw [hleft] at hlimited
        simp only [ledger, Ledger.mk.injEq] at hlimited ⊢
        exact ⟨hlimited.1, hlimited.2.1, trivial⟩
      · rw [hleft]

theorem ledger_stop (task s : Nat) (queueFull : Bool) (w : World) :
    (Span.stop task s queueFull w).1.ledger = w.ledger.stop s := by
  have hspan : (w.modifySpan s Span.left).span s = (w.span s).left := by
    simp [World.span, modifySpan]
  unfold Span.stop Ledger.stop
  dsimp only
  rw [hspan]
  by_cases hone : (w.span s).depth = 1
  · rw [if_pos (by simp [Span.left, hone]), if_pos (show (w.ledger.span s).depth = 1 from hone),
      ledger_contextStop, ledger_left]
    rfl
  · rw [if_neg (by simp only [Span.left]; omega),
      if_neg (show ¬ (w.ledger.span s).depth = 1 from hone), ledger_left]

theorem World.VarsOk.modifySpan {w : World} (hok : w.VarsOk) (s : Nat) (f : Span → Span) :
    (w.modifySpan s f).VarsOk := hok

theorem World.VarsOk.modifyContext {w : World} (hok : w.VarsOk) (c : Nat)
    (f : SpanContext → SpanContext) : (w.modifyContext c f).VarsOk := hok

theorem view_contextStart {w : World} (hok : w.VarsOk) (task c s t : Nat) :
    (SpanContext.start task c s w).view t =
      if t = task then pushed s (w.view task) else w.view t := by
  obtain ⟨primary, heq⟩ := SpanContext.start_eq task c s w
  rw [heq, view_bindList (hok.modifyContext c _)]
  rfl

theorem World.VarsOk.contextStart {w : World} (hok : w.VarsOk) (task c s : Nat) :
    (SpanContext.start task c s w).VarsOk := by
  obtain ⟨primary, heq⟩ := SpanContext.start_eq task c s w
  rw [heq]
  exact (hok.modifyContext c _).bindList task _

theorem view_contextStop {w : World} (hok : w.VarsOk) (task c s : Nat) (queueFull : Bool) (t : Nat) :
    (SpanContext.stop task c s queueFull w).1.view t =
      if t = task then (w.view task).erase s else w.view t := by
  have hleft : (SpanContext.left task c s w).view t =
      if t = task then (w.view task).erase s else w.view t := by
    rw [SpanContext.left_eq, view_bindList ((hok.modifySpan s _).modifyContext c _)]
    rfl
  cases hnoop : (w.context c).noop with
  | true =>
      rw [SpanContext.stop_of_noop task c s queueFull w hnoop,
        view_bindList (hok.modifyContext c _)]
      rfl
  | false =>
      rw [SpanContext.stop_of_real task c s queueFull w hnoop]
      dsimp only
      split
      · exact hleft
      · exact hleft

theorem World.VarsOk.contextStop {w : World} (hok : w.VarsOk) (task c s : Nat) (queueFull : Bool) :
    (SpanContext.stop task c s queueFull w).1.VarsOk := by
  have hleft : (SpanContext.left task c s w).VarsOk := by
    rw [SpanContext.left_eq]
    exact ((hok.modifySpan s _).modifyContext c _).bindList task _
  cases hnoop : (w.context c).noop with
  | true =>
      rw [SpanContext.stop_of_noop task c s queueFull w hnoop]
      exact (hok.modifyContext c _).bindList task _
  | false =>
      rw [SpanContext.stop_of_real task c s queueFull w hnoop]
      dsimp only
      split
      · exact hleft
      · exact hleft

/-- Only the stack of the task that enters the span changes, and only when nobody was inside. -/
theorem view_start {w : World} (hok : w.VarsOk) (task s t : Nat) :
    (Span.start task s w).view t =
      if t = task ∧ (w.span s).depth = 0 then pushed s (w.view task) else w.view t := by
  have hdepth : ((w.modifySpan s Span.entered).span s).depth = (w.span s).depth + 1 := by
    simp [World.span, modifySpan, Span.entered]
  have hentry : ∀ w' : World, (if (w'.span s).cls = .EntrySpan then w'.modifySpan s Span.restarted
      else w').view t = w'.view t := by
    intro w'
    split <;> rfl
  unfold Span.start
  dsimp only
  rw [hentry, hdepth]
  by_cases hzero : (w.span s).depth = 0
  · rw [if_pos (by omega), view_contextStart ((hok.modifySpan s _).modifySpan s _)]
    simp only [hzero, and_true]
    rfl
  · rw [if_neg (by omega), if_neg (fun h => hzero h.2)]
    rfl

theorem World.VarsOk.start {w : World} (hok : w.VarsOk) (task s : Nat) :
    (Span.start task s w).VarsOk := by
  have hentry : ∀ w' : World, w'.VarsOk →
      (if (w'.span s).cls = .EntrySpan then w'.modifySpan s Span.restarted else w').VarsOk := by
    intro w' hok'
    split <;> exact hok'
  unfold Span.start
  dsimp only
  refine hentry _ ?_
  split
  · exact World.VarsOk.contextStart ((hok.modifySpan s _).modifySpan s _) task _ s
  · exact hok

theorem view_stop {w : World} (hok : w.VarsOk) (task s : Nat) (queueFull : Bool) (t : Nat) :
    (Span.stop task s queueFull w).1.view t =
      if t = task ∧ (w.span s).depth = 1 then (w.view task).erase s else w.view t := by
  have hdepth : ((w.modifySpan s Span.left).span s).depth = (w.span s).depth - 1 := by
    simp [World.span, modifySpan, Span.left]
  unfold Span.stop
  dsimp only
  rw [hdepth]
  by_cases hone : (w.span s).depth = 1
  · rw [if_pos (by omega), view_contextStop (hok.modifySpan s _)]
    simp only [hone, and_true]
    rfl
  · rw [if_neg (by omega), if_neg (fun h => hone h.2)]
    rfl

theorem World.VarsOk.stop {w : World} (hok : w.VarsOk) (task s : Nat) (queueFull : Bool) :
    (Span.stop task s queueFull w).1.VarsOk := by
  unfold Span.stop
  dsimp only
  split
  · exact World.VarsOk.contextStop (hok.modifySpan s _) task _ s queueFull
  · exact hok

end Call

theorem sound_init : World.init.ledger.Sound := .of_empty rfl rfl (fun _ => rfl) rfl

theorem varsOk_init : World.init.VarsOk := by
  intro task list hlist
  cases hlist

end SkyWalking
