import Mathlib
import SkyWalking.Lib.Budget
import SkyWalking.Lib.Slot
import SkyWalking.Trace.Sampling
import SkyWalking.Proof.TaskLemmas
import SkyWalking.Proof.Chain

/-!
# Who gets the samples

The sampler grants the first `sample_n_per_3_secs` questions of a window, whoever asks. A root
operation has a real segment if and only if it was granted its question and can be traced.
-/

namespace SkyWalking

open World

variable {env : Env} {w : World}

theorem quiet_capture (hok : w.VarsOk) (task self : Nat) :
    Quiet w (SpanContext.capture task self w).1 := by
  have hget := Quiet.spansGet hok task
  unfold SpanContext.capture
  dsimp only
  split
  · exact Quiet.of_eq hok rfl rfl rfl
  · split
    · exact hget
    · exact hget.then_eq rfl rfl rfl

theorem quiet_isFromCurrent (hok : w.VarsOk) (task self : Nat) (snapshot : Snapshot) :
    Quiet w (SpanContext.isFromCurrent task self snapshot w).1 := by
  have hcapture := quiet_capture hok task self
  unfold SpanContext.isFromCurrent
  split
  · exact Quiet.refl hok
  · split
    · next heq =>
      rw [heq] at hcapture
      exact hcapture
    · next heq =>
      rw [heq] at hcapture
      exact hcapture

theorem quiet_continued (hok : w.VarsOk) (task self snapshot : Nat) :
    Quiet w (SpanContext.continued env task self snapshot w).1 := by
  have hcurrent := quiet_isFromCurrent hok task self (w.snapshots.get snapshot)
  unfold SpanContext.continued
  dsimp only
  split
  · exact Quiet.of_eq hok rfl rfl rfl
  · split
    · next heq =>
      rw [heq] at hcurrent
      exact hcurrent
    · next heq =>
      rw [heq] at hcurrent
      exact hcurrent
    · next w' heq =>
      rw [heq] at hcurrent
      split
      · split
        · exact hcurrent
        · split
          · exact hcurrent
          · -- An identifier may be used up.
            unfold Span.idOf
            split <;> exact hcurrent.then_eq rfl rfl rfl
      · exact hcurrent

theorem ApiAction.view_of_ne_actor (hok : w.VarsOk) {action : ApiAction} {t : Nat}
    (hne : action.actor ≠ some t) : (action.run env w).view t = w.view t := by
  cases action with
  | spawn creator child =>
      rw [ApiAction.run, view_spawn, if_neg]
      rintro rfl
      exact hne rfl
  | thread child =>
      have hvar : Function.update w.vars child none t = w.vars t := by
        apply Function.update_of_ne
        rintro rfl
        exact hne rfl
      simp only [ApiAction.run, World.view, hvar]
  | getContext task sampled => exact (quiet_getContext env hok task sampled).view_eq t
  | newSpan task self answers call => exact (call.run_quiet env hok task self answers).view_eq t
  | start task span =>
      rw [ApiAction.run, view_start hok, if_neg]
      rintro ⟨rfl, -⟩
      exact hne rfl
  | stop task span queueFull =>
      rw [ApiAction.run, view_stop hok, if_neg]
      rintro ⟨rfl, -⟩
      exact hne rfl
  | raised span traceback => rfl
  | edit span change => exact (quiet_edit env hok span change).view_eq t
  | inject span =>
      unfold ApiAction.run Span.inject
      dsimp only
      split <;> rfl
  | receive sw8 correlation => rfl
  | extract span carrier =>
      unfold ApiAction.run Span.extract
      dsimp only
      split
      · rfl
      · exact (Quiet.extractReal env hok span _).view_eq t
  | putCorrelation self key value => rfl
  | capture task self => exact (quiet_capture hok task self).view_eq t
  | continued task self snapshot => exact (quiet_continued hok task self snapshot).view_eq t
  | wait seconds => rfl

theorem ApiAction.carriers_get (hok : w.VarsOk) (action : ApiAction) {a : Nat}
    (ha : a < w.carriers.size) : (action.run env w).carriers.get a = w.carriers.get a := by
  have hsame : ∀ {w' : World}, w'.carriers = w.carriers → w'.carriers.get a = w.carriers.get a :=
    fun h => by rw [h]
  cases action with
  | spawn creator child => rfl
  | thread child => rfl
  | getContext task sampled => exact hsame (quiet_getContext env hok task sampled).carriers_eq
  | newSpan task self answers call =>
      exact hsame (call.run_quiet env hok task self answers).carriers_eq
  | start task span => exact hsame (carriers_start task span w)
  | stop task span queueFull => exact hsame (carriers_stop task span queueFull w)
  | raised span traceback => rfl
  | edit span change => exact hsame (quiet_edit env hok span change).carriers_eq
  | inject span =>
      unfold ApiAction.run Span.inject
      dsimp only
      split
      · exact w.carriers.get_alloc_of_lt _ ha
      · exact w.carriers.get_alloc_of_lt _ ha
      · rfl
  | receive sw8 correlation => exact w.carriers.get_alloc_of_lt _ ha
  | extract span carrier =>
      unfold ApiAction.run Span.extract
      dsimp only
      split
      · rfl
      · exact hsame (Quiet.extractReal env hok span _).carriers_eq
  | putCorrelation self key value => rfl
  | capture task self => exact hsame (quiet_capture hok task self).carriers_eq
  | continued task self snapshot => exact hsame (quiet_continued hok task self snapshot).carriers_eq
  | wait seconds => rfl

namespace Sampling

theorem isReal_ok (w : World) (span : Nat) : isReal (w, .ok span) = !(w.ledger.span span).noop := by
  rw [Bool.eq_iff_iff]
  simp [isReal, World.ledger, Ledger.span, World.span, Span.toLedger]
  exact decide_eq_true_iff

theorem isReal_newNoop (w : World) (context : Nat) :
    isReal ((Span.newNoop context w).1, .ok w.spans.size) = false := by
  simp [isReal, Span.newNoop, Span.alloc, World.span, Span.create]

theorem isReal_newSpan (w : World) (self : Nat) {cls : SpanClass} (hcls : cls ≠ .NoopSpan)
    (op : String) (peer : Option String) (component : Option Component) :
    isReal (SpanContext.newSpan env self none cls op peer component w) = true := by
  rw [newSpan_of_not_finished env w self none cls op peer component rfl]
  simp [isReal, World.span, Span.create, hcls]

theorem extractReal_of_unreadable (span : Nat) {carrier : Carrier} (w : World)
    (hvalid : carrier.isValid = .ok true) {error : PyError}
    (herror : carrier.spanId.toInt = .error error) :
    (Span.extractReal env span carrier w).2 = .error error := by
  unfold Span.extractReal
  simp only [hvalid, SegmentRef.ofCarrier, herror, Except.map]

/-- A real span stays real, unless the reference of its carrier cannot be built. -/
theorem isReal_extractReal {span : Nat} (hreal : isReal (w, .ok span) = true)
    {carrier : Carrier} (hvalid : carrier.isValid = .ok true) :
    isReal ((Span.extractReal env span carrier w).1,
      (Span.extractReal env span carrier w).2.map fun _ => span) = readable carrier := by
  simp only [readable, hvalid]
  cases hnumber : carrier.spanId.toInt with
  | error error =>
      rw [extractReal_of_unreadable span w hvalid hnumber]
      rfl
  | ok number =>
      rw [extractReal_ok env span w (Or.inr ⟨hvalid, number, hnumber⟩), Except.map, isReal_ok,
        ledger_extractReal, ← isReal_ok, hreal]

theorem ignoreCheck_none (ignored : Bool) (w : World) :
    SpanContext.ignoreCheck ⟨ignored, false⟩ none w =
      if ignored then ((Span.newNoop w.contexts.size (SpanContext.newNoop w).1).1,
        .ok (some w.spans.size)) else (w, .ok none) := by
  cases ignored <;> rfl

section Root

variable {task self : Nat} (hempty : w.view task = [])

include hempty

theorem isReal_newLocalSpan (ignored : Bool) (op : String) :
    isReal (SpanContext.newLocalSpan env task self ⟨ignored, false⟩ op w) =
      (!(w.context self).noop && !ignored) := by
  unfold SpanContext.newLocalSpan
  cases hnoop : (w.context self).noop with
  | true => exact isReal_newNoop w self
  | false =>
      rw [ignoreCheck_none]
      cases ignored with
      | true => exact isReal_newNoop (SpanContext.newNoop w).1 w.contexts.size
      | false =>
          simp only [SpanContext.peek, hempty, List.getLast?_nil, Bool.false_eq_true, if_false]
          exact isReal_newSpan _ self (by decide) op none none

theorem isReal_newExitSpan (ignored : Bool) (op : String) (peer : Option String)
    (component inherit : Option Component) :
    isReal (SpanContext.newExitSpan env task self ⟨ignored, false⟩ op peer component inherit w) =
      (!(w.context self).noop && !ignored) := by
  unfold SpanContext.newExitSpan
  cases hnoop : (w.context self).noop with
  | true => exact isReal_newNoop w self
  | false =>
      rw [ignoreCheck_none]
      cases ignored with
      | true => exact isReal_newNoop (SpanContext.newNoop w).1 w.contexts.size
      | false =>
          have hroot := newSpan_of_not_finished env (w.spansGet task) self none .ExitSpan op peer
            component rfl
          simp only [SpanContext.peek, hempty, List.getLast?_nil, Bool.false_eq_true, if_false,
            SpanContext.reusesExit, hroot]
          cases inherit with
          | none => simp [isReal, World.span, Span.create]
          | some inherit => simp [isReal, World.span, World.modifySpan, Span.create]

theorem isReal_newEntrySpan (config : Config) (op : String) (carrier : Option Nat)
    (inherit : Option Component) :
    isReal (SpanContext.newEntrySpan env task self ⟨config.ignores op, false⟩ op carrier inherit w) =
      (!(w.context self).noop &&
        ((Use.block (.newEntrySpan op carrier inherit)).ask w).traceable config) := by
  unfold SpanContext.newEntrySpan
  simp only [Use.ask, Ask.traceable, Call.carrier, Call.op]
  cases hnoop : (w.context self).noop with
  | true => exact isReal_newNoop w self
  | false =>
      unfold SpanContext.ignoreCheck
      cases hignored : SpanContext.isIgnored ⟨config.ignores op, false⟩
          (carrier.map w.carriers.get) with
      | error error => rfl
      | ok suppressed =>
          cases suppressed with
          | true => exact isReal_newNoop (SpanContext.newNoop w).1 w.contexts.size
          | false =>
              have hroot := newSpan_of_not_finished env (w.spansGet task) self none .EntrySpan op none
                none rfl
              simp only [SpanContext.peek, hempty, List.getLast?_nil, Bool.false_eq_true, if_false,
                SpanContext.reusesEntry, hroot]
              cases carrier with
              | none => simp [isReal, World.span, Span.create]
              | some a =>
                  simp only [spansGet_carriers, Option.map_some, Option.all_some]
                  cases hvalid : (w.carriers.get a).isValid with
                  | error error => simp [isReal, readable, hvalid]
                  | ok valid =>
                      cases valid with
                      | false => simp [isReal, readable, hvalid, World.span, Span.create]
                      | true =>
                          rw [Bool.not_false, Bool.true_and, ← isReal_extractReal ?_ hvalid]
                          simp [isReal, World.span, Span.create]

/-- **A root operation is real if and only if its context is and it can be traced.** -/
theorem isReal_run (config : Config) (call : Call) :
    isReal (call.run env task self ⟨config.ignores call.op, false⟩ w) =
      (!(w.context self).noop && ((Use.block call).ask w).traceable config) := by
  have hnone : ∀ ignored : Bool, SpanContext.isIgnored ⟨ignored, false⟩ none = .ok ignored := by
    intro ignored
    cases ignored <;> rfl
  cases call with
  | newLocalSpan op =>
      rw [Call.run, Call.op, isReal_newLocalSpan hempty]
      simp only [Use.ask, Ask.traceable, Call.carrier, Call.op, Option.map_none, hnone]
      cases config.ignores op <;> rfl
  | newEntrySpan op carrier inherit => exact isReal_newEntrySpan hempty config op carrier inherit
  | newExitSpan op peer component inherit =>
      rw [Call.run, Call.op, isReal_newExitSpan hempty]
      simp only [Use.ask, Ask.traceable, Call.carrier, Call.op, Option.map_none, hnone]
      cases config.ignores op <;> rfl

end Root

theorem isReal_start (task span : Nat) (w : World) :
    isReal (Span.start task span w, .ok span) = isReal (w, .ok span) := by
  rw [isReal_ok, isReal_ok, ledger_start, Ledger.span_start, if_pos rfl]
  rfl

theorem isReal_enter (config : Config) (held : Held) (call : Call) (hempty : w.view held.task = []) :
    isReal (enter env config held call w) =
      (!(w.context held.context).noop && ((Use.block call).ask w).traceable config) := by
  have hrun : isReal (call.run env held.task held.context ⟨config.ignores call.op, false⟩ w) = _ :=
    isReal_run hempty config call
  rw [← hrun]
  unfold enter
  split
  · next heq => rw [heq]
  · next heq => rw [heq, isReal_start]

structure HeldOk (w : World) (held : Held) : Prop where
  context_lt : held.context < w.contexts.size
  enabled : held.use.Enabled w
  asked : ∀ ask sampled, held.asked = some (ask, sampled) → w.view held.task = [] ∧
    (w.context held.context).noop = !sampled ∧ ask = held.use.ask w

theorem Use.ask_congr {w' : World} {use : Use} (henabled : use.Enabled w)
    (hcarriers : ∀ a < w.carriers.size, w'.carriers.get a = w.carriers.get a) :
    use.ask w' = use.ask w := by
  cases use with
  | block call =>
      have hcarrier : call.carrier.map w'.carriers.get = call.carrier.map w.carriers.get := by
        apply Option.map_congr
        intro a ha
        exact hcarriers a (henabled a ha)
      rw [Use.ask, Use.ask, hcarrier]
  | log record => rfl
  | runnable => rfl
  | continueTracing => rfl
  | read => rfl

theorem HeldOk.frame {held : Held} (hheld : HeldOk w held) (hok : WorldOk env w)
    (action : ApiAction) (henabled : action.Enabled w) (hne : action.actor ≠ some held.task) :
    HeldOk (action.run env w) held := by
  have hevolves := (keeps_action henabled hok).2
  have hcarriers : ∀ a < w.carriers.size, (action.run env w).carriers.get a = w.carriers.get a :=
    fun _ ha => action.carriers_get hok.vars_lt ha
  have huse := Use.ask_congr hheld.enabled hcarriers
  constructor
  · exact hheld.context_lt.trans_le hevolves.contexts_le
  · cases huse : held.use with
    | block call =>
        intro a ha
        have hcarrier := hheld.enabled
        rw [huse] at hcarrier
        exact (hcarrier a ha).trans_le hevolves.carriers_le
    | log record => trivial
    | runnable => trivial
    | continueTracing => trivial
    | read => trivial
  · intro ask sampled hasked
    obtain ⟨hview, hnoop, hask⟩ := hheld.asked ask sampled hasked
    refine ⟨?_, ?_, ?_⟩
    · rw [ApiAction.view_of_ne_actor hok.vars_lt hne, hview]
    · rw [(hevolves.context_same _ hheld.context_lt).1, hnoop]
    · rw [hask, huse]

/-- The call has been granted its question, and the root operation that it was asked for can be
traced. -/
def Held.pending (config : Config) (held : Held) : Bool :=
  match held.asked with
  | none => false
  | some (ask, sampled) => sampled && ask.traceable config

/-- The sampler grants the first questions, and what is real or about to be real is a count over
them. -/
structure Inv (env : Env) (config : Config) (s : State) : Prop where
  worldOk : WorldOk env s.world
  tasks : (s.held.map Held.task).Nodup
  heldOk : ∀ held ∈ s.held, HeldOk s.world held
  factor_eq : s.samplingFactor = min config.sampleNPer3Secs s.asks.length
  count : s.real + s.held.countP (Held.pending config) =
    (s.asks.take config.sampleNPer3Secs).countP (Ask.traceable config)

variable {config : Config} {s s' : State}

theorem Inv.init (env : Env) (config : Config) : Inv env config .init where
  worldOk := worldOk_init env
  tasks := List.nodup_nil
  heldOk _ h := by cases h
  factor_eq := by simp [State.init]
  count := by simp [State.init]

theorem Inv.api (hinv : Inv env config s) {action : ApiAction} (henabled : action.Enabled s.world)
    (hne : ∀ held ∈ s.held, action.actor ≠ some held.task) :
    Inv env config { s with world := action.run env s.world } :=
  { hinv with
    worldOk := (keeps_action henabled hinv.worldOk).1
    heldOk := fun held hheld => (hinv.heldOk held hheld).frame hinv.worldOk action henabled (hne held hheld) }

theorem Inv.reset (hinv : Inv env config s) : Inv env config s.reset where
  worldOk := hinv.worldOk
  tasks := by
    have hsame : s.reset.held.map Held.task = s.held.map Held.task := by
      rw [State.reset, List.map_map]
      rfl
    rw [hsame]
    exact hinv.tasks
  heldOk held hheld := by
    obtain ⟨before, hbefore, rfl⟩ := List.mem_map.mp hheld
    have hok := hinv.heldOk before hbefore
    exact ⟨hok.context_lt, hok.enabled, fun _ _ h => by cases h⟩
  factor_eq := by simp [State.reset]
  count := by
    have hnone : s.reset.held.countP (Held.pending config) = 0 := by
      rw [List.countP_eq_zero]
      intro held hheld
      obtain ⟨before, -, rfl⟩ := List.mem_map.mp hheld
      simp [Held.pending]
    rw [hnone]
    simp [State.reset]

theorem Inv.getContext (hinv : Inv env config s) (task : Nat) {use : Use}
    (henabled : use.Enabled s.world) (sampled : Bool) :
    use.Enabled (getContext env task sampled s.world).1 ∧
      (getContext env task sampled s.world).2 <
        (getContext env task sampled s.world).1.contexts.size ∧
      (s.world.view task = [] →
        ((getContext env task sampled s.world).1.context
          (getContext env task sampled s.world).2).noop = !sampled) := by
  have hquiet := quiet_getContext env hinv.worldOk.vars_lt task sampled
  refine ⟨?_, getContext_lt hinv.worldOk task sampled, ?_⟩
  · cases use with
    | block call =>
        intro a ha
        rw [hquiet.carriers_eq]
        exact henabled a ha
    | log record => trivial
    | runnable => trivial
    | continueTracing => trivial
    | read => trivial
  · intro hempty
    obtain ⟨hledger, hcontext⟩ := ledger_getContext_of_empty env sampled hempty
    have hnew := Ledger.context_newContext_size s.world.ledger !sampled
    rw [← hledger] at hnew
    rw [hcontext]
    exact congrArg Ledger.Context.noop hnew

theorem Inv.heldOk_getContext (hinv : Inv env config s) {task : Nat} (sampled : Bool) {new : Held}
    (hnew : HeldOk (SkyWalking.getContext env task sampled s.world).1 new) :
    ∀ held ∈ new :: s.held, HeldOk (SkyWalking.getContext env task sampled s.world).1 held := by
  intro held hheld
  obtain rfl | hold := List.mem_cons.mp hheld
  · exact hnew
  · exact (hinv.heldOk held hold).frame hinv.worldOk (.getContext task sampled) trivial
      (by simp [ApiAction.actor])

theorem Inv.tasks_cons (hinv : Inv env config s) {task : Nat}
    (hfree : ∀ held ∈ s.held, held.task ≠ task) {new : Held} (hnew : new.task = task) :
    ((new :: s.held).map Held.task).Nodup := by
  rw [List.map_cons, List.nodup_cons]
  refine ⟨?_, hinv.tasks⟩
  intro hmem
  obtain ⟨held, hheld, htask⟩ := List.mem_map.mp hmem
  exact hfree held hheld (htask.trans hnew)

/-- The sampler grants the first questions. -/
theorem trySampling_eq (hn : 0 < config.sampleNPer3Secs) {samplingFactor asked : Nat}
    (hfactor : samplingFactor = min config.sampleNPer3Secs asked) :
    trySampling config samplingFactor =
      (min config.sampleNPer3Secs (asked + 1), decide (asked < config.sampleNPer3Secs)) := by
  unfold trySampling canSampling
  rw [if_neg (by omega), hfactor]
  by_cases hlt : asked < config.sampleNPer3Secs
  · rw [if_pos (by simp; omega)]
    simp [hlt]
    omega
  · rw [if_neg (by simp; omega)]
    simp [hlt]
    omega

theorem Inv.begin (hn : 0 < config.sampleNPer3Secs) (hinv : Inv env config s) {task : Nat} {use : Use}
    (henabled : use.Enabled s.world) (hfree : ∀ held ∈ s.held, held.task ≠ task) :
    Inv env config (s.begin env config task use) := by
  unfold State.begin
  split
  · next hempty =>
    rw [trySampling_eq hn hinv.factor_eq]
    dsimp only
    obtain ⟨huse, hlt, hnoop⟩ := hinv.getContext task henabled
      (decide (s.asks.length < config.sampleNPer3Secs))
    have hquiet := quiet_getContext env hinv.worldOk.vars_lt task
      (decide (s.asks.length < config.sampleNPer3Secs))
    refine ⟨?_, ?_, ?_, ?_, ?_⟩
    · exact (keeps_getContext task _ hinv.worldOk).1
    · exact hinv.tasks_cons hfree rfl
    · refine hinv.heldOk_getContext _ ⟨hlt, huse, ?_⟩
      intro ask sampled hasked
      obtain ⟨rfl, rfl⟩ := Prod.mk.inj (Option.some.inj hasked)
      refine ⟨(hquiet.view_eq task).trans hempty, hnoop hempty, ?_⟩
      exact (Use.ask_congr henabled fun a _ => by rw [hquiet.carriers_eq]).symm
    · simp
    · have hcount := hinv.count
      rw [Slot.countP_cons_toNat]
      by_cases hlt : s.asks.length < config.sampleNPer3Secs
      · rw [Budget.take_snoc_of_lt hlt, List.countP_append, List.countP_singleton]
        simp only [Held.pending, hlt, decide_true, Bool.true_and]
        cases (use.ask s.world).traceable config <;> simp <;> omega
      · rw [Budget.take_snoc_of_ge (by omega)]
        simpa only [Held.pending, hlt, decide_false, Bool.false_and, Bool.toNat_false, Nat.add_zero]
          using hcount
  · next hne =>
    obtain ⟨huse, hlt, -⟩ := hinv.getContext task henabled true
    refine ⟨?_, ?_, ?_, hinv.factor_eq, ?_⟩
    · exact (keeps_getContext task true hinv.worldOk).1
    · exact hinv.tasks_cons hfree rfl
    · exact hinv.heldOk_getContext true ⟨hlt, huse, fun _ _ h => by cases h⟩
    · rw [List.countP_cons_of_neg (by simp [Held.pending])]
      exact hinv.count

/-- What the actor of a step does leaves the other calls as they are. -/
theorem HeldOk.others {rest : List Held} (hrest : ∀ held ∈ rest, HeldOk w held) (hok : WorldOk env w)
    {action : ApiAction} (henabled : action.Enabled w)
    (hne : ∀ held ∈ rest, action.actor ≠ some held.task) :
    ∀ held ∈ rest, HeldOk (action.run env w) held := fun held hheld =>
  (hrest held hheld).frame hok action henabled (hne held hheld)

/-- The rest of a block, as calls of the API. -/
theorem enter_heldOk (config : Config) {held : Held} {call : Call} (hok : WorldOk env w)
    (hcontext : held.context < w.contexts.size) (hcarrier : (Use.block call).Enabled w)
    {rest : List Held} (hrest : ∀ other ∈ rest, HeldOk w other)
    (hne : ∀ other ∈ rest, other.task ≠ held.task) :
    WorldOk env (enter env config held call w).1 ∧
      ∀ other ∈ rest, HeldOk (enter env config held call w).1 other := by
  have hcreate : (ApiAction.newSpan held.task held.context ⟨config.ignores call.op, false⟩
      call).Enabled w := ⟨hcontext, hcarrier⟩
  have hkeeps : Keeps env w _ := keeps_action hcreate
  have hok' := (hkeeps hok).1
  have hrest' := HeldOk.others hrest hok hcreate fun _ _ => by simp [ApiAction.actor]
  have heffect := call.run_effect env held.task held.context ⟨config.ignores call.op, false⟩ w
  simp only [ApiAction.run] at hok' hrest'
  unfold enter
  split
  · next heq =>
    rw [heq] at hok' hrest'
    exact ⟨hok', hrest'⟩
  · next w' span heq =>
    rw [heq] at hok' hrest' heffect
    have hstart : (ApiAction.start held.task span).Enabled w' := heffect.span_lt hok rfl
    refine ⟨(keeps_start held.task hstart hok').1, ?_⟩
    refine HeldOk.others hrest' hok' hstart ?_
    intro other hother hactor
    exact hne other hother (Option.some.inj hactor).symm

/-- A call that is not for a block got its grant for nothing. -/
theorem HeldOk.pending_eq_false {held : Held} (hok : HeldOk w held)
    (hnone : held.use.ask w = ⟨none⟩) : held.pending config = false := by
  cases hasked : held.asked with
  | none => simp [Held.pending, hasked]
  | some answer =>
      obtain ⟨-, -, hask⟩ := hok.asked answer.1 answer.2 hasked
      simp [Held.pending, hasked, hask, hnone, Ask.traceable]

/-- A root operation of the window gets a real segment if and only if it was granted its question and
can be traced. -/
theorem HeldOk.isReal_enter {held : Held} (hok : HeldOk w held) {call : Call}
    (huse : held.use = .block call) :
    (held.asked.isSome && isReal (enter env config held call w)) = held.pending config := by
  cases hasked : held.asked with
  | none => simp [Held.pending, hasked]
  | some answer =>
      obtain ⟨hempty, hnoop, hask⟩ := hok.asked answer.1 answer.2 hasked
      rw [Sampling.isReal_enter config held call hempty, hnoop, ← huse, ← hask]
      simp [Held.pending, hasked]

theorem Inv.complete (hinv : Inv env config s) {index : Nat} {held : Held}
    (hheld : s.held[index]? = some held) : Inv env config (s.complete env config index held) := by
  have hperm := Slot.perm_cons hheld
  have hmem : held ∈ s.held := List.mem_of_getElem? hheld
  have hok := hinv.heldOk held hmem
  have htasks := (hperm.map Held.task).nodup_iff.mp hinv.tasks
  rw [List.map_cons, List.nodup_cons] at htasks
  have hne : ∀ other ∈ s.held.eraseIdx index, other.task ≠ held.task := by
    intro other hother heq
    exact htasks.1 (heq ▸ List.mem_map_of_mem hother)
  have hrest : ∀ other ∈ s.held.eraseIdx index, HeldOk s.world other := fun other hother =>
    hinv.heldOk other (List.mem_of_mem_eraseIdx hother)
  have hcount := hinv.count
  rw [hperm.countP_eq, Slot.countP_cons_toNat] at hcount
  -- The snapshot of `@runnable` and of `continue_tracing`.
  have hcapture : (ApiAction.capture held.task held.context).Enabled s.world := hok.context_lt
  have hworld := (keeps_capture held.task held.context hinv.worldOk).1
  have hothers := HeldOk.others hrest hinv.worldOk hcapture fun _ _ => by simp [ApiAction.actor]
  unfold State.complete
  cases huse : held.use with
  | block call =>
      have hcarrier : (Use.block call).Enabled s.world := huse ▸ hok.enabled
      obtain ⟨hworld, hothers⟩ := enter_heldOk config hinv.worldOk hok.context_lt hcarrier hrest hne
      refine ⟨hworld, htasks.2, hothers, hinv.factor_eq, ?_⟩
      dsimp only
      rw [hok.isReal_enter huse]
      cases hpending : held.pending config with
      | true =>
          rw [hpending, Bool.toNat_true] at hcount
          simp only [if_true]
          omega
      | false =>
          rw [hpending, Bool.toNat_false] at hcount
          simpa using hcount
  | log record =>
      rw [hok.pending_eq_false (by rw [huse]; rfl), Bool.toNat_false] at hcount
      exact ⟨hinv.worldOk, htasks.2, hrest, hinv.factor_eq, hcount⟩
  | runnable =>
      rw [hok.pending_eq_false (by rw [huse]; rfl), Bool.toNat_false] at hcount
      exact ⟨hworld, htasks.2, hothers, hinv.factor_eq, hcount⟩
  | continueTracing =>
      rw [hok.pending_eq_false (by rw [huse]; rfl), Bool.toNat_false] at hcount
      exact ⟨hworld, htasks.2, hothers, hinv.factor_eq, hcount⟩
  | read =>
      rw [hok.pending_eq_false (by rw [huse]; rfl), Bool.toNat_false] at hcount
      exact ⟨hinv.worldOk, htasks.2, hrest, hinv.factor_eq, hcount⟩

theorem Inv.step (hn : 0 < config.sampleNPer3Secs) (hinv : Inv env config s) {action : Action}
    (hstep : Step env config s action s') : Inv env config s' := by
  unfold Step at hstep
  cases action with
  | api action =>
      rw [State.step] at hstep
      split at hstep
      · next hguard =>
        obtain rfl := Option.some.inj hstep
        exact hinv.api hguard.2.1 hguard.2.2
      · cases hstep
  | begin task use =>
      rw [State.step] at hstep
      split at hstep
      · next hguard =>
        obtain rfl := Option.some.inj hstep
        split
        · exact hinv.begin hn hguard.1 hguard.2
        · exact hinv
      · cases hstep
  | complete index =>
      obtain ⟨held, hheld, rfl⟩ := Option.map_eq_some_iff.mp hstep
      exact hinv.complete hheld
  | reset =>
      obtain rfl := Option.some.inj hstep
      exact hinv.reset

theorem Inv.run (hn : 0 < config.sampleNPer3Secs) {actions : List Action}
    (hrun : Run (Step env config) .init actions s) : Inv env config s :=
  hrun.invariant (fun _ _ _ hinv hstep => hinv.step hn hstep) (Inv.init env config)

/-- When all root operations of the window are through, the real ones are those that were granted
their question and can be traced. -/
theorem Inv.real_eq (hinv : Inv env config s) (hsettled : s.Settled) :
    s.real = (s.asks.take config.sampleNPer3Secs).countP (Ask.traceable config) := by
  have hnone : s.held.countP (Held.pending config) = 0 := by
    rw [List.countP_eq_zero]
    intro held hheld
    have hok := hinv.heldOk held hheld
    cases huse : held.use with
    | block call => simp [Held.pending, hsettled held hheld call huse]
    | log record => simp [hok.pending_eq_false (by rw [huse]; rfl)]
    | runnable => simp [hok.pending_eq_false (by rw [huse]; rfl)]
    | continueTracing => simp [hok.pending_eq_false (by rw [huse]; rfl)]
    | read => simp [hok.pending_eq_false (by rw [huse]; rfl)]
  have hcount := hinv.count
  omega

theorem Ask.named_of_traceable (config : Config) (ask : Ask) (h : ask.traceable config = true) :
    ask.named config = true := by
  unfold Ask.traceable at h
  unfold Ask.named
  split at h
  · cases h
  · next call carrier _ =>
    cases hignored : config.ignores call.op with
    | true => simp [SpanContext.isIgnored, hignored] at h
    | false => rfl

/-- **The budget.** In every window between two resets, the root operations that get a real segment are
as many as the budget and the names allow if and only if the questions that the sampler grants are all
asked for root operations that can be traced, or the other ones among them leave room for all root
operations whose name is not ignored. Nothing else has used up the budget if and only if the former is
the case. -/
theorem real_roots_eq_min_iff (env : Env) (config : Config) (hn : 0 < config.sampleNPer3Secs)
    {actions : List Action} {s : State} (hrun : Run (Step env config) .init actions s)
    (hsettled : s.Settled) :
    (s.real = min config.sampleNPer3Secs (s.namedRoots config) ↔
      (∀ ask ∈ s.asks.take config.sampleNPer3Secs, ask.traceable config = true) ∨
        (∀ ask ∈ s.asks.take config.sampleNPer3Secs, ask.named config = true →
          ask.traceable config = true) ∧
        ∀ ask ∈ s.asks.drop config.sampleNPer3Secs, ¬ ask.named config = true) ∧
    (s.real = min config.sampleNPer3Secs (s.namedRoots config) ∧ s.samplingFactor = s.real ↔
      ∀ ask ∈ s.asks.take config.sampleNPer3Secs, ask.traceable config = true) := by
  have hinv : Inv env config s := .run hn hrun
  have hreal := hinv.real_eq hsettled
  have hmin := Budget.countP_take_eq_min_iff config.sampleNPer3Secs s.asks
    (Ask.named_of_traceable config)
  have hspent := Budget.countP_take_eq_min_length_iff config.sampleNPer3Secs s.asks
    (Ask.traceable config)
  rw [← hreal] at hmin hspent
  rw [← hinv.factor_eq] at hspent
  refine ⟨hmin, ?_⟩
  constructor
  · rintro ⟨-, hfactor⟩
    exact hspent.mp hfactor.symm
  · intro hgood
    exact ⟨hmin.mpr (Or.inl hgood), (hspent.mpr hgood).symm⟩

/-- A limit of `limit`, with health checks ignored and log records reported from `WARNING` on. -/
def sampleConfig (limit : Nat) : Config :=
  { sampleNPer3Secs := limit
    ignores := fun op => op == "/health"
    logReporterLevel := 30
    logReporterIgnoreFilter := false }

def warning : LogRecord :=
  { disabled := false
    name := "app"
    levelno := 30
    passesFilter := true }

/-- Two requests at once, with a log record inside the first one, and a third request. -/
def busyWindow : List Action :=
  [.begin 1 (.block (.newEntrySpan "/users" none none)),
    .begin 2 (.block (.newEntrySpan "/orders" none none)),
    .complete 1,
    .begin 1 (.log warning),
    .complete 1,
    .complete 0,
    .api (.stop 1 0 false),
    .begin 1 (.block (.newLocalSpan "job")),
    .complete 0]

/-- A log record outside of all spans, and a request. -/
def loggedWindow : List Action :=
  [.begin 1 (.log warning),
    .complete 0,
    .begin 1 (.block (.newEntrySpan "/users" none none)),
    .complete 0]

theorem busyWindow_sampled :
    ∃ s, Run (Step .sample (sampleConfig 2)) .init busyWindow s ∧ s.real = 2 ∧
      s.namedRoots (sampleConfig 2) = 3 ∧
      ∀ ask ∈ s.asks.take 2, ask.traceable (sampleConfig 2) = true := by
  have hresult : ∃ s, Run (Step .sample (sampleConfig 2)) .init busyWindow s ∧
      s.held.isEmpty = true ∧ s.real = 2 ∧ s.samplingFactor = 2 ∧
      s.namedRoots (sampleConfig 2) = 3 := by
    apply Run.exists_of_foldlM
    decide +kernel
  obtain ⟨s, hrun, hheld, hreal, hfactor, hnamed⟩ := hresult
  have hsettled : s.Settled := by
    intro held hmem
    rw [List.isEmpty_iff.mp hheld] at hmem
    cases hmem
  have hiff := (real_roots_eq_min_iff .sample (sampleConfig 2) (by decide) hrun hsettled).2
  refine ⟨s, hrun, hreal, hnamed, hiff.mp ⟨?_, ?_⟩⟩
  · rw [hreal, hnamed]
    rfl
  · rw [hfactor, hreal]

/-- The log record takes the only sample of the window, and the request gets none. -/
theorem logRecord_takes_sample :
    ∃ s, Run (Step .sample (sampleConfig 1)) .init loggedWindow s ∧ s.Settled ∧
      s.real ≠ min (sampleConfig 1).sampleNPer3Secs (s.namedRoots (sampleConfig 1)) := by
  have hresult : ∃ s, Run (Step .sample (sampleConfig 1)) .init loggedWindow s ∧
      s.held.isEmpty = true ∧ s.real = 0 ∧ s.namedRoots (sampleConfig 1) = 1 := by
    apply Run.exists_of_foldlM
    decide +kernel
  obtain ⟨s, hrun, hheld, hreal, hnamed⟩ := hresult
  refine ⟨s, hrun, ?_, ?_⟩
  · intro held hmem
    rw [List.isEmpty_iff.mp hheld] at hmem
    cases hmem
  · rw [hreal, hnamed]
    decide

end Sampling

end SkyWalking
