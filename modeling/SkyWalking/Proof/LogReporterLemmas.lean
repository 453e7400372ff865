import SkyWalking.Log.Reporter
import SkyWalking.Proof.CausalityLemmas

/-!
# Logs point to spans that the collector gets

What a log call does to a process is what `get_context()` does. The span that it names is on a stack, so it was
entered, and what was entered stays open until it is recorded.
-/

namespace SkyWalking

open World

variable {env : Env} {w w' : World}

theorem spansGet_of_bound {task : Nat} (h : w.vars task ≠ none) : w.spansGet task = w := by
  obtain ⟨list, hlist⟩ := Option.ne_none_iff_exists'.mp h
  simp only [World.spansGet, hlist]

theorem getContext_bound (env : Env) (task : Nat) (sampled : Bool) (w : World) :
    (getContext env task sampled w).1.vars task ≠ none := by
  have hget : (w.spansGet task).vars task ≠ none := by
    cases hvar : w.vars task with
    | some list => simp [World.spansGet, hvar]
    | none => simp [World.spansGet, hvar, World.bindList]
  have hvars : (getContext env task sampled w).1.vars = (w.spansGet task).vars := by
    unfold getContext
    dsimp only
    split
    · rfl
    · split <;> rfl
  rw [hvars]
  exact hget

theorem logOrigin_world (env : Env) (task : Nat) (sampled : Bool) (w : World) :
    (logOrigin env task sampled w).1 = (getContext env task sampled w).1 := by
  have hget := spansGet_of_bound (getContext_bound env task sampled w)
  unfold logOrigin
  dsimp only [SpanContext.peek]
  split <;> exact hget

/-- The span that a log names is the active one of its task. -/
theorem logOrigin_active (hok : w.VarsOk) {task : Nat} {sampled : Bool} {traceContext : TraceContext}
    (h : (logOrigin env task sampled w).2.traceContext = some traceContext) :
    ∃ top, (w.view task).getLast? = some top ∧ (w.span top).sid ≠ -1 ∧
      traceContext =
        { traceId := (w.context (w.span top).context).traceId.getD ""
          traceSegmentId := (w.context (w.span top).context).segment.segmentId.value
          spanId := (w.span top).sid } := by
  have hview := (quiet_getContext env hok task sampled).view_eq task
  cases htop : (w.view task).getLast? with
  | none =>
      unfold logOrigin at h
      simp only [SpanContext.peek, hview, htop] at h
      cases h
  | some top =>
      have hget := getContext_of_top env sampled htop
      rw [hget] at hview
      dsimp only at hview
      unfold logOrigin at h
      simp only [hget, SpanContext.peek, hview, htop, spansGet_span, World.context, spansGet_contexts]
        at h
      split at h
      · next hsid => exact ⟨top, rfl, hsid, (Option.some.inj h).symm⟩
      · cases h

/-- A log call writes nothing, or it looks up its origin and signs what it writes. -/
theorem LogCall.run_cases (env : Env) (reporter : LogReporter) (task : Nat) (sampled : Bool) (w : World)
    (call : LogCall) :
    call.run env reporter task sampled w = (w, none) ∨
      (call.run env reporter task sampled w).1 = (getContext env task sampled w).1 ∧
        ∃ data, (call.run env reporter task sampled w).2 = some data ∧ data.service = env.agentName ∧
          data.serviceInstance = env.agentInstanceName ∧
          data.traceContext = (logOrigin env task sampled w).2.traceContext := by
  have hworld := logOrigin_world env task sampled w
  cases call with
  | logging disabled passes record =>
      unfold LogCall.run swHandle
      dsimp only
      split
      · exact .inl rfl
      split
      · exact .inl rfl
      split
      · exact .inl rfl
      split
      · exact .inl rfl
      · exact .inr ⟨hworld, _, rfl, rfl, rfl, rfl⟩
  | loguru record =>
      unfold LogCall.run swSink
      dsimp only
      split
      · exact .inl rfl
      · split
        · exact .inl rfl
        · exact .inr ⟨hworld, _, rfl, rfl, rfl, rfl⟩

/-- The active span of a process in order bears the name that the log gives. -/
theorem World.Nameable.logOrigin_names (h : w.Nameable env) {task : Nat} {sampled : Bool}
    {traceContext : TraceContext}
    (horigin : (logOrigin env task sampled w).2.traceContext = some traceContext) :
    ∃ top ∈ w.view task, w.NamedBy env top
      { traceId := traceContext.traceId
        segmentId := traceContext.traceSegmentId
        spanId := traceContext.spanId
        service := env.agentName
        serviceInstance := env.agentInstanceName } := by
  obtain ⟨top, htop, hsid, rfl⟩ := logOrigin_active h.worldOk.vars_lt horigin
  have hlt := h.worldOk.top_lt top htop
  have hreal := h.real_of_sid hlt hsid
  refine ⟨top, List.mem_of_getLast? htop, ⟨hlt, hreal, rfl, rfl⟩, ?_, rfl, rfl⟩
  obtain ⟨traceId, htrace, -, -⟩ := h.worldOk.traceId_ne hlt (h.context_real hlt hreal)
  obtain ⟨id, hhead, rfl⟩ := Option.map_eq_some_iff.mp htrace
  dsimp only
  rw [htrace, Option.getD_some]
  exact h.traceOf_head hlt hhead

namespace LoggedFleet

variable {envs : Nat → Env} {reporters : Nat → LogReporter} {f f' : LoggedFleet}

/-- The log was written in this span, and the span was entered. -/
def WrittenIn (envs : Nat → Env) (fleet : Fleet) (data : LogData) (traceContext : TraceContext)
    (node : Node) : Prop :=
  (fleet.world node.process).NamedBy (envs node.process) node.span (spanName data traceContext) ∧
    (fleet.world node.process).ledger.Begun node.span

structure Sound (envs : Nat → Env) (f : LoggedFleet) : Prop where
  rooted : f.fleet.Rooted envs
  isSealed : ∀ p, (f.fleet.world p).ledger.Sealed
  logs : ∀ data ∈ f.logs, ∀ traceContext ∈ data.traceContext,
    ∃ node, WrittenIn envs f.fleet data traceContext node

theorem sound_init (envs : Nat → Env) : LoggedFleet.init.Sound envs where
  rooted := Fleet.rooted_init envs
  isSealed _ := SkyWalking.sound_init.sealed
  logs _ h := by cases h

section Step

variable {action : FleetAction} {fleet' : Fleet} (h : f.Sound envs) (hhonest : f.fleet.Honest action)
  (horderly : Orderly (f.fleet.world action.process) action.call)
  (hstep : Fleet.Step envs f.fleet action fleet')

include h hhonest hstep

theorem WrittenIn.step {data : LogData} {traceContext : TraceContext} {node : Node}
    (hwritten : WrittenIn envs f.fleet data traceContext node) :
    WrittenIn envs fleet' data traceContext node := by
  obtain ⟨hnamed, hbegun⟩ := hwritten
  have hknown : f.fleet.Known envs [node] (spanName data traceContext) :=
    ⟨node, List.mem_singleton_self node, hnamed⟩
  obtain ⟨found, hmem, hnamed'⟩ := hknown.step h.rooted.sound hhonest hstep
  obtain rfl := List.mem_singleton.mp hmem
  refine ⟨hnamed', ?_⟩
  by_cases hp : found.process = action.process
  · obtain ⟨p, s⟩ := found
    obtain rfl : p = action.process := hp
    exact (h.rooted.extends hstep).begun s hnamed.has.lt (toLedger_real.mpr hnamed.has.real) hbegun
  · rw [hstep.world_of_ne hp]
    exact hbegun

include horderly

theorem Sound.fleet_step : fleet'.Rooted envs ∧ ∀ p, (fleet'.world p).ledger.Sealed := by
  refine ⟨h.rooted.step hstep hhonest horderly.2, fun p => ?_⟩
  by_cases hp : p = action.process
  · subst hp
    exact hstep.apiStep.sealed (h.rooted.sound.nameable _).inv (h.isSealed _) horderly.1
  · rw [hstep.world_of_ne hp]
    exact h.isSealed p

end Step

/-- What a log call does to the fleet is nothing, or what `get_context()` does. -/
theorem fleet_of_log {p task : Nat} {sampled : Bool} {call : LogCall}
    (hstep : Step envs reporters f (.log p task sampled call) f') :
    f'.fleet = f.fleet ∨ Fleet.Step envs f.fleet ⟨p, .getContext task sampled⟩ f'.fleet := by
  obtain rfl : f.log envs reporters p task sampled call = f' := Option.some.inj hstep
  obtain hnone | ⟨hworld, -⟩ := call.run_cases (envs p) (reporters p) task sampled (f.fleet.world p)
  · left
    simp only [log, hnone, Function.update_eq_self]
  · right
    refine ⟨trivial, ?_⟩
    simp [log, hworld, Fleet.call, ApiAction.run, ApiAction.sends, ApiAction.announces]

theorem Sound.step (h : f.Sound envs) {action : LoggedAction} (hregular : f.Regular action)
    (hstep : Step envs reporters f action f') : f'.Sound envs := by
  cases action with
  | call action =>
      obtain ⟨hhonest, horderly⟩ := hregular
      obtain ⟨fleet, hnext, rfl⟩ := Option.map_eq_some_iff.mp hstep
      have hstep := Fleet.step_of_next hnext
      obtain ⟨hrooted, hsealed⟩ := h.fleet_step hhonest horderly hstep
      refine ⟨hrooted, hsealed, fun data hdata traceContext htrace => ?_⟩
      obtain ⟨node, hwritten⟩ := h.logs data hdata traceContext htrace
      exact ⟨node, WrittenIn.step h hhonest hstep hwritten⟩
  | log p task sampled call =>
      have hlogs : ∀ data ∈ f'.logs, ∀ traceContext ∈ data.traceContext,
          ∃ node, WrittenIn envs f.fleet data traceContext node := by
        intro data hdata traceContext htrace
        obtain rfl : f.log envs reporters p task sampled call = f' := Option.some.inj hstep
        have hwritten : (f.log envs reporters p task sampled call).logs = f.logs ++
            (call.run (envs p) (reporters p) task sampled (f.fleet.world p)).2.toList := rfl
        rw [hwritten] at hdata
        obtain hold | hnew := List.mem_append.mp hdata
        · exact h.logs data hold traceContext htrace
        · obtain hnone | ⟨-, written, hsome, hservice, hinstance, horigin⟩ :=
            call.run_cases (envs p) (reporters p) task sampled (f.fleet.world p)
          · rw [hnone] at hnew
            cases hnew
          · rw [hsome] at hnew
            obtain rfl := List.mem_singleton.mp hnew
            obtain ⟨top, htop, hnamed⟩ :=
              (h.rooted.sound.nameable p).logOrigin_names (horigin.symm.trans htrace)
            refine ⟨⟨p, top⟩, ?_, (h.rooted.treed p).stacked.begun task top htop ?_⟩
            · rw [spanName, hservice, hinstance]
              exact hnamed
            · exact toLedger_real.mpr hnamed.has.real
      obtain hsame | hfleet := fleet_of_log hstep
      · refine ⟨hsame ▸ h.rooted, hsame ▸ h.isSealed, ?_⟩
        rw [hsame]
        exact hlogs
      · have hhonest : f.fleet.Honest ⟨p, .getContext task sampled⟩ := ⟨trivial, trivial⟩
        obtain ⟨hrooted, hsealed⟩ := h.fleet_step hhonest ⟨trivial, trivial⟩ hfleet
        refine ⟨hrooted, hsealed, fun data hdata traceContext htrace => ?_⟩
        obtain ⟨node, hwritten⟩ := hlogs data hdata traceContext htrace
        exact ⟨node, WrittenIn.step h hhonest hfleet hwritten⟩

theorem Sound.correlated (h : f.Sound envs) (hapart : Apart envs) : f.Correlated envs := by
  intro data hdata traceContext htrace
  obtain ⟨⟨q, t⟩, hnamed, hbegun⟩ := h.logs data hdata traceContext htrace
  refine ⟨q, t, hnamed, ?_, hbegun, ?_⟩
  · exact fun q' t' hhas => h.rooted.sound.has_unique hapart hnamed.has hhas
  · intro harchived
    have hinv := (h.rooted.sound.nameable q).inv
    exact recorded_of_begun hinv (h.isSealed q) harchived hnamed.has.lt rfl hbegun

/-- **Logs meet their spans.** However logs and calls of the API interleave in a fleet, each log with a trace
context names exactly one span; that span was entered, and it is in its segment when that is archived. -/
theorem logs_are_correlated (envs : Nat → Env) (hapart : Apart envs) (reporters : Nat → LogReporter)
    {actions : List LoggedAction} {f : LoggedFleet}
    (hrun : Run (Guarded Regular (Step envs reporters)) .init actions f) : f.Correlated envs :=
  (hrun.invariant (I := fun f : LoggedFleet => f.Sound envs) (fun _ _ _ h hstep => h.step hstep.1 hstep.2)
    (sound_init envs)).correlated hapart

/-- The default settings with an empty layout. -/
def sampleReporter : LogReporter :=
  { level := 30
    layout := ""
    formatted := true
    ignoreFilter := false
    safeMode := false
    format := fun record _ => record.message }

def sampleRecord (message : String) : LogRecord :=
  { name := "root"
    levelno := 40
    levelname := "ERROR"
    threadName := "MainThread"
    msg := message
    message := message
    args := []
    excInfo := none
    created := 1 }

/-- A record that is written before, inside and after the span of a request, and one by the other logger. -/
def loggedActions : List LoggedAction :=
  [.log 0 0 true (.logging false true (sampleRecord "before")),
    .call ⟨0, .getContext 0 true⟩,
    .call ⟨0, .newSpan 0 1 ⟨false, false⟩ (.newEntrySpan "/users" none none)⟩,
    .call ⟨0, .start 0 0⟩,
    .log 0 0 true (.logging false true (sampleRecord "inside")),
    .call ⟨0, .newSpan 0 1 ⟨false, false⟩ (.newLocalSpan "load")⟩,
    .call ⟨0, .start 0 1⟩,
    .log 0 0 true (.loguru (some ⟨40, "ERROR", "MainThread", "deeper", none, 2⟩)),
    .call ⟨0, .stop 0 1 false⟩,
    .call ⟨0, .stop 0 0 false⟩,
    .log 0 0 true (.logging false true (sampleRecord "after"))]

/-- Texts, and where they were written. -/
def places (f : LoggedFleet) : List (String × String × Option (String × Int)) :=
  f.logs.map fun data =>
    (data.text, data.endpoint, data.traceContext.map fun tc => (tc.traceSegmentId, tc.spanId))

theorem sample_logs_are_correlated :
    ∃ f, Run (Guarded Regular (Step Fleet.sampleEnvs fun _ => sampleReporter)) .init loggedActions f ∧
      places f = [("before", "", none), ("inside", "/users", some ("aaa", 0)),
        ("deeper", "/users", some ("aaa", 1)), ("after", "", none)] ∧
      (f.fleet.world 0).archived = [1] ∧ f.Correlated Fleet.sampleEnvs := by
  have htest : (loggedActions.foldlM (fun f action => if decide (f.Regular action) then
      f.next Fleet.sampleEnvs (fun _ => sampleReporter) action else none) LoggedFleet.init).any (fun f =>
        decide (places f = [("before", "", none), ("inside", "/users", some ("aaa", 0)),
          ("deeper", "/users", some ("aaa", 1)), ("after", "", none)] ∧
          (f.fleet.world 0).archived = [1])) = true := by
    decide +kernel
  obtain ⟨f, hrun, hplaces, harchived⟩ := Run.exists_of_guarded_foldlM htest
  have hregular : Run (Guarded Regular (Step Fleet.sampleEnvs fun _ => sampleReporter)) .init loggedActions f :=
    hrun.mono fun _ _ _ h => ⟨of_decide_eq_true h.1, h.2⟩
  exact ⟨f, hregular, hplaces, harchived, logs_are_correlated _ Fleet.apart_sampleEnvs _ hregular⟩

end LoggedFleet

end SkyWalking
