import Mathlib
import SkyWalking.Proof.LifecycleLemmas

/-!
# What every process can rely on

A process reports only while its flag is up, and `config.finalize` runs only while it is down: so the
features that the queues were made for are those that the reporters go by. What can go wrong is the
order of the lines behind `config.finalize`: the flag goes up before the plugins are installed, and the
queues are made before the module of the protocol is imported.
-/

namespace SkyWalking

namespace Lifecycle

variable {config : Config} {p p' : Process} {s s' : State} {fresh bound : Nat}

namespace Process

theorem shutdownQueues_ok {kinds : List ItemKind}
    (h : ∀ kind ∈ kinds, ∃ items, p.queue kind = .queue items) :
    (p.shutdownQueues kinds).2 = .ok () := by
  induction kinds generalizing p with
  | nil => rfl
  | cons kind rest ih =>
      obtain ⟨items, hitems⟩ := h kind List.mem_cons_self
      unfold shutdownQueues
      rw [hitems]
      apply ih
      intro other hother
      by_cases heq : other = kind
      · subst heq
        exact ⟨[], Function.update_self _ _ _⟩
      · obtain ⟨items', hitems'⟩ := h other (List.mem_cons_of_mem _ hother)
        exact ⟨items', (Function.update_of_ne heq _ _).trans hitems'⟩

theorem fini_ok (h : p.reporting = true → Initialised config p) : (p.fini config).2 = .ok () := by
  unfold fini
  split
  · next hreporting =>
    have hinit := h hreporting
    obtain ⟨finished, hfinished⟩ := Option.isSome_iff_exists.mp hinit.finished
    obtain ⟨protocol, hprotocol⟩ := Option.isSome_iff_exists.mp hinit.protocol
    rw [hfinished, hprotocol]
    apply shutdownQueues_ok
    intro kind hkind
    exact hinit.queue kind (List.mem_filter.mp hkind).2
  · rfl

theorem stop_ok (h : p.reporting = true → Initialised config p) : (p.stop config).2 = .ok () := by
  have hfini : (fini config { p with
      atexit := 0
      finiRegistered := false }).2 = .ok () := by
    apply fini_ok
    intro hreporting
    exact ⟨(h hreporting).queue, (h hreporting).protocol, (h hreporting).finished⟩
  unfold stop
  dsimp only
  generalize fini config { p with
      atexit := 0
      finiRegistered := false } = result at hfini
  obtain ⟨p', outcome⟩ := result
  obtain rfl := hfini
  rfl

theorem archive_queue (config : Config) (kind other : ItemKind) (item : Nat)
    (h : ∃ items, p.queue other = .queue items) :
    ∃ items, (p.archive config kind item).1.queue other = .queue items := by
  unfold archive
  split
  · split
    · split
      · by_cases heq : other = kind
        · subst heq
          exact ⟨_, Function.update_self _ _ _⟩
        · obtain ⟨items, hitems⟩ := h
          exact ⟨items, (Function.update_of_ne heq _ _).trans hitems⟩
      · exact h
    · exact h
  · exact h

theorem archive_ok {kind : ItemKind} (item : Nat)
    (h : p.reporting = true → ∃ items, p.queue kind = .queue items) :
    (p.archive config kind item).2 = .ok () := by
  unfold archive
  split
  · next hreporting =>
    obtain ⟨items, hitems⟩ := h hreporting
    rw [hitems]
    dsimp only
    split
    · rfl
    · rfl
  · rfl

theorem isSegmentQueueFull_ok (h : p.reporting = true → ∃ items, p.queue .segment = .queue items) :
    ∃ queueFull, p.isSegmentQueueFull config = .ok queueFull := by
  unfold isSegmentQueueFull
  split
  · next hreporting =>
    obtain ⟨items, hitems⟩ := h hreporting
    rw [hitems]
    exact ⟨_, rfl⟩
  · exact ⟨true, rfl⟩

end Process

/-- With a full queue the check succeeds without a look at the carrier. -/
theorem ignoreCheck_full (ignored : Bool) (carrier : Option Carrier) (w : World) :
    SpanContext.ignoreCheck ⟨ignored, true⟩ carrier w =
      ((Span.newNoop (SpanContext.newNoop w).2 (SpanContext.newNoop w).1).1,
        .ok (some (Span.newNoop (SpanContext.newNoop w).2 (SpanContext.newNoop w).1).2)) := by
  have hignored : SpanContext.isIgnored ⟨ignored, true⟩ carrier = .ok true := by
    simp [SpanContext.isIgnored]
  unfold SpanContext.ignoreCheck
  rw [hignored]

theorem newNoop_cls (context : Nat) (w : World) :
    ((Span.newNoop context w).1.span (Span.newNoop context w).2).cls = .NoopSpan := by
  simp [Span.newNoop, Span.alloc, World.span, Span.create]

theorem givesNoop : GivesNoop true := by
  intro env task self ignored call w
  cases call with
  | newLocalSpan op =>
      change ∃ w' span, SpanContext.newLocalSpan env task self ⟨ignored, true⟩ op w = _ ∧ _
      unfold SpanContext.newLocalSpan
      rw [ignoreCheck_full]
      split
      · exact ⟨_, _, rfl, newNoop_cls self w⟩
      · exact ⟨_, _, rfl, newNoop_cls _ _⟩
  | newEntrySpan op carrier inherit =>
      change ∃ w' span,
        SpanContext.newEntrySpan env task self ⟨ignored, true⟩ op carrier inherit w = _ ∧ _
      unfold SpanContext.newEntrySpan
      rw [ignoreCheck_full]
      split
      · exact ⟨_, _, rfl, newNoop_cls self w⟩
      · exact ⟨_, _, rfl, newNoop_cls _ _⟩
  | newExitSpan op peer component inherit =>
      change ∃ w' span,
        SpanContext.newExitSpan env task self ⟨ignored, true⟩ op peer component inherit w = _ ∧ _
      unfold SpanContext.newExitSpan
      rw [ignoreCheck_full]
      split
      · exact ⟨_, _, rfl, newNoop_cls self w⟩
      · exact ⟨_, _, rfl, newNoop_cls _ _⟩

theorem silent_of_not_reporting (h : p.reporting = false) : Silent config p := by
  constructor
  · intro kind item
    unfold Process.archive
    rw [h]
    rfl
  · refine ⟨true, ?_, givesNoop⟩
    unfold Process.isSegmentQueueFull
    rw [h]
    rfl

/-- What the flags of a process say, with ids below `bound` in use. -/
structure Sound (config : Config) (bound : Nat) (p : Process) : Prop where
  registered : p.Registered
  reporting : p.reporting = true → p.started = true ∧ Initialised config p
  halted : p.halted = true → p.reporting = false
  pid_lt : p.pid < bound
  startedPid_lt : ∀ pid ∈ p.startedPid, pid < bound
  armed : p.started = true ∨ 0 < p.forkHooks →
    config.loggingLevelKnown = true ∧ config.regexesCompile = true

namespace Sound

theorem init (config : Config) : Sound config 1 (.init config) where
  registered := ⟨rfl, rfl⟩
  reporting h := by cases h
  halted h := by cases h
  pid_lt := Nat.one_pos
  startedPid_lt pid h := by cases h
  armed h := by simp [Process.init] at h

theorem mono (h : Sound config fresh p) (hle : fresh ≤ bound) : Sound config bound p where
  registered := h.registered
  reporting := h.reporting
  halted := h.halted
  pid_lt := h.pid_lt.trans_le hle
  startedPid_lt pid hpid := (h.startedPid_lt pid hpid).trans_le hle
  armed := h.armed

theorem not_reporting (h : Sound config bound p) (hstarted : p.started = false) :
    p.reporting = false := by
  apply Bool.eq_false_iff.mpr
  intro hreporting
  rw [(h.reporting hreporting).1] at hstarted
  cases hstarted

theorem unfinalized (h : Sound config bound p) (hstarted : p.started = false) :
    Sound config bound (p.unfinalized config) := by
  have hreporting := h.not_reporting hstarted
  have hregistered : (p.unfinalized config).Registered := h.registered.unfinalized
  obtain ⟨profile, meter, heq⟩ := p.unfinalized_eq config
  rw [heq] at hregistered ⊢
  refine ⟨hregistered, ?_, h.halted, h.pid_lt, h.startedPid_lt, h.armed⟩
  intro hreporting'
  exact absurd hreporting' (Bool.eq_false_iff.mp hreporting)

theorem instrumented (h : Sound config bound p) (hlevel : config.loggingLevelKnown = true)
    (hstarted : p.started = false) (hregexes : config.regexesCompile = true) :
    Sound config bound (p.instrumented config) := by
  have hreporting := h.not_reporting hstarted
  have hregistered : (p.instrumented config).Registered := h.registered.instrumented
  obtain ⟨profile, meter, logInstalls, heq, -⟩ := p.instrumented_eq config
  rw [heq] at hregistered ⊢
  refine ⟨hregistered, ?_, h.halted, h.pid_lt, h.startedPid_lt, fun _ => ⟨hlevel, hregexes⟩⟩
  intro hreporting'
  exact absurd hreporting' (Bool.eq_false_iff.mp hreporting)

theorem proceed (h : Sound config bound p) (hstarted : p.started = true) :
    Sound config bound (p.proceed config).1 := by
  have hregistered : (p.proceed config).1.Registered := h.registered.proceed
  have hcases := p.proceed_cases config
  generalize p.proceed config = result at hregistered hcases
  have hqueue : ∀ kind, p.enabled config kind = true →
      ∃ items, (if p.enabled config kind then QueueAttr.queue [] else .noneValue) = .queue items :=
    fun kind hkind => ⟨[], if_pos hkind⟩
  cases hcases with
  | unimported =>
      -- A child whose parent has reported has the queues of its own and the protocol of the parent.
      refine ⟨hregistered, ?_, h.halted, h.pid_lt, ?_, fun _ => h.armed (Or.inl hstarted)⟩
      · intro hreporting
        have hinit := (h.reporting hreporting).2
        exact ⟨hstarted, hqueue, hinit.protocol, hinit.finished⟩
      · intro pid hpid
        obtain rfl := Option.some.inj hpid
        exact h.pid_lt
  | done =>
      refine ⟨hregistered, fun _ => ⟨hstarted, hqueue, rfl, rfl⟩, ?_, h.pid_lt, ?_,
        fun _ => h.armed (Or.inl hstarted)⟩
      · intro hhalted
        cases hhalted
      · intro pid hpid
        obtain rfl := Option.some.inj hpid
        exact h.pid_lt

theorem arm (h : Sound config bound p) (hstarted : p.started = true) :
    Sound config bound (p.arm config).1 := by
  have hregistered : (p.arm config).1.Registered := h.registered.arm
  obtain ⟨atFork, hooks, heq, -⟩ := p.arm_eq config
  rw [heq] at hregistered ⊢
  constructor
  · exact hregistered
  · intro hreporting
    have hinit := (h.reporting hreporting).2
    exact ⟨hstarted, hinit.queue, hinit.protocol, hinit.finished⟩
  · exact h.halted
  · exact h.pid_lt
  · intro pid hpid
    obtain rfl := Option.some.inj hpid
    exact h.pid_lt
  · intro _
    exact h.armed (Or.inl hstarted)

/-- Both ways to start something; what follows the instrumentation finds the flag up. -/
theorem start {next : Process → Process × Option StartError}
    (hnext : ∀ {p : Process}, Sound config bound p → p.started = true →
      Sound config bound (next p).1)
    (h : Sound config bound p) {result : Process × Option StartError}
    (hcases : p.Start config next result) : Sound config bound result.1 := by
  cases hcases with
  | unlogged => exact h
  | refused => exact h
  | resumed hstarted => exact hnext h hstarted
  | unfinalized _ hstarted => exact h.unfinalized hstarted
  | uninstalled hlevel hstarted hregexes => exact h.instrumented hlevel hstarted hregexes
  | fresh hlevel hstarted hregexes =>
      apply hnext (h.instrumented hlevel hstarted hregexes)
      obtain ⟨profile, meter, logInstalls, heq, -⟩ := p.instrumented_eq config
      rw [heq]

theorem stop (h : Sound config bound p) : Sound config bound (p.stop config).1 := by
  have hregistered : (p.stop config).1.Registered := h.registered.stop
  have hok : (p.stop config).2 = .ok () := by
    apply Process.stop_ok
    intro hreporting
    exact (h.reporting hreporting).2
  have hcases := p.stop_cases config
  generalize p.stop config = result at hregistered hok hcases
  cases hcases with
  | failed => cases hok
  | done =>
      refine ⟨hregistered, ?_, fun _ => rfl, h.pid_lt, h.startedPid_lt, ?_⟩
      · intro hreporting
        cases hreporting
      · intro harmed
        exact h.armed (harmed.imp (fun hstarted => by cases hstarted) id)

theorem archive (h : Sound config bound p) (kind : ItemKind) (item : Nat) :
    Sound config bound (p.archive config kind item).1 := by
  have hregistered : (p.archive config kind item).1.Registered := h.registered.archive kind item
  have hqueue := fun other => p.archive_queue config kind other item
  obtain ⟨queue, heq⟩ := p.archive_eq config kind item
  rw [heq] at hregistered hqueue ⊢
  refine ⟨hregistered, ?_, h.halted, h.pid_lt, h.startedPid_lt, h.armed⟩
  intro hreporting
  obtain ⟨hstarted, hinit⟩ := h.reporting hreporting
  refine ⟨hstarted, ?_, hinit.protocol, hinit.finished⟩
  intro other henabled
  exact hqueue other (hinit.queue other henabled)

/-- A copy under a new id, and perhaps a new instance name. -/
theorem copy (h : Sound config bound p) {pid : Nat} (hpid : pid < bound) (name : String) :
    Sound config bound
      { p with
        pid := pid
        agentInstanceName := name } where
  registered := ⟨h.registered.atexit, h.registered.forkHooks⟩
  reporting hreporting :=
    ⟨(h.reporting hreporting).1, (h.reporting hreporting).2.queue,
      (h.reporting hreporting).2.protocol, (h.reporting hreporting).2.finished⟩
  halted := h.halted
  pid_lt := hpid
  startedPid_lt := h.startedPid_lt
  armed := h.armed

theorem fork (h : Sound config bound p) {pid : Nat} (hpid : pid < bound) :
    Sound config bound (p.fork config pid).1 := by
  obtain ⟨-, heq⟩ | ⟨-, heq⟩ := Process.fork_cases config pid h.registered
  · rw [heq]
    exact h.copy hpid p.agentInstanceName
  · rw [heq]
    apply Sound.start Sound.proceed _ (Process.start_cases config (p.child pid))
    exact h.copy hpid _

theorem effect (h : Sound config bound p) (action : Action)
    (hfork : ∀ pid, action = .fork pid → fresh < bound) :
    Sound config bound (action.effect config fresh p) := by
  cases action with
  | start => exact Sound.start Sound.proceed h (p.start_cases config)
  | startPreforkMaster => exact Sound.start Sound.arm h (p.startPreforkMaster_cases config)
  | stop => exact h.stop
  | archive pid kind item => exact h.archive kind item
  | fork pid => exact h.fork (hfork pid rfl)

end Sound

theorem length_of_step {action : Action} (hstep : Step config s action s') :
    s.processes.length ≤ s'.processes.length ∧
    ∀ pid, action = .fork pid → s.processes.length < s'.processes.length := by
  constructor
  · obtain ⟨p, -, heq | heq⟩ := step_cases hstep
    · rw [heq, List.length_set]
    · rw [heq, List.length_append]
      exact Nat.le_add_right _ _
  · rintro pid rfl
    obtain ⟨p, -, rfl⟩ := Option.map_eq_some_iff.mp hstep
    simp

theorem sound_of_run {actions : List Action} (hrun : Run (Step config) (.init config) actions s) :
    ∀ p ∈ s.processes, Sound config s.processes.length p := by
  refine hrun.invariant (I := fun s => ∀ p ∈ s.processes, Sound config s.processes.length p) ?_ ?_
  · intro s action s' hall hstep
    obtain ⟨hle, hfork⟩ := length_of_step hstep
    have hall' : ∀ p ∈ s.processes, Sound config s'.processes.length p := by
      intro p hp
      exact (hall p hp).mono hle
    apply step_forall hstep hall'
    intro p hp _
    exact (hall' p hp).effect action hfork
  · intro p hp
    obtain rfl := List.mem_singleton.mp hp
    exact Sound.init config

theorem Unchanged.refl (p : Process) : Unchanged p p := ⟨rfl, rfl, rfl, rfl, rfl, rfl, rfl, rfl⟩

/-- What a start that gets past `config.finalize` finds: patterns that can be compiled, and a protocol
whose module can be imported. -/
def Config.Startable (config : Config) : Prop :=
  config.disablePluginsCompile = true ∧ importProtocol config = none

theorem proceed_returns (himport : importProtocol config = none) (p : Process) :
    (p.proceed config).2 = none := by
  have hcases := p.proceed_cases config
  generalize p.proceed config = result at hcases
  cases hcases with
  | unimported error hbad =>
      rw [himport] at hbad
      cases hbad
  | done => rfl

theorem arm_returns (config : Config) (p : Process) : (p.arm config).2 = none := rfl

/-- Only what precedes the flag raises. -/
theorem unchanged_of_raises {next : Process → Process × Option StartError}
    (hstartable : config.loggingLevelKnown = true → config.regexesCompile = true →
      config.disablePluginsCompile = true)
    (hnext : config.loggingLevelKnown = true → config.regexesCompile = true →
      ∀ p, (next p).2 = none)
    (harmed : p.started = true → config.loggingLevelKnown = true ∧ config.regexesCompile = true)
    {result : Process × Option StartError} (hcases : p.Start config next result) {error : StartError}
    (hraises : result.2 = some error) : Unchanged p result.1 := by
  cases hcases with
  | unlogged => exact Unchanged.refl p
  | refused => exact Unchanged.refl p
  | resumed hstarted =>
      obtain ⟨hlevel, hregexes⟩ := harmed hstarted
      rw [hnext hlevel hregexes] at hraises
      cases hraises
  | unfinalized =>
      obtain ⟨profile, meter, heq⟩ := p.unfinalized_eq config
      rw [heq]
      exact ⟨rfl, rfl, rfl, rfl, rfl, rfl, rfl, rfl⟩
  | uninstalled hlevel _ hregexes hbad =>
      rw [hstartable hlevel hregexes] at hbad
      cases hbad
  | fresh hlevel _ hregexes =>
      rw [hnext hlevel hregexes] at hraises
      cases hraises

section Startable

variable (hstartable : config.loggingLevelKnown = true → config.regexesCompile = true →
  config.Startable)

include hstartable

theorem Sound.fork_returns (h : Sound config fresh p) (hhooks : 0 < p.forkHooks) {pid : Nat}
    (hpid : fresh ≤ pid) : (p.fork config pid).2 = none := by
  obtain ⟨hlevel, hregexes⟩ := h.armed (Or.inr hhooks)
  obtain ⟨hdisable, himport⟩ := hstartable hlevel hregexes
  obtain ⟨hzero, -⟩ | ⟨-, heq⟩ := Process.fork_cases config pid h.registered
  · omega
  · rw [heq]
    have hcases := Process.start_cases config (p.child pid)
    generalize (p.child pid).start config = result at hcases
    cases hcases with
    | unlogged hunknown =>
        rw [hlevel] at hunknown
        cases hunknown
    | refused _ hstartedPid =>
        -- The parent was started in a process that is older than the child.
        have hlt := h.startedPid_lt pid hstartedPid
        omega
    | resumed => exact proceed_returns himport _
    | unfinalized _ _ hbad =>
        rw [hregexes] at hbad
        cases hbad
    | uninstalled _ _ _ hbad =>
        rw [hdisable] at hbad
        cases hbad
    | fresh => exact proceed_returns himport _

theorem Sound.healthy (h : Sound config fresh p) : Healthy config fresh p where
  atexit_le := h.registered.atexit_le
  forkHooks_le := h.registered.forkHooks_le
  start _ hraises := unchanged_of_raises (fun hlevel hregexes => (hstartable hlevel hregexes).1)
    (fun hlevel hregexes => proceed_returns (hstartable hlevel hregexes).2)
    (fun hstarted => h.armed (Or.inl hstarted)) (p.start_cases config) hraises
  startPreforkMaster _ hraises :=
    unchanged_of_raises (fun hlevel hregexes => (hstartable hlevel hregexes).1)
      (fun _ _ => arm_returns config) (fun hstarted => h.armed (Or.inl hstarted))
      (p.startPreforkMaster_cases config) hraises
  fork hhooks _ hpid := h.fork_returns hstartable hhooks hpid
  initialised hreporting := (h.reporting hreporting).2
  isSegmentQueueFull := Process.isSegmentQueueFull_ok fun hreporting =>
    (h.reporting hreporting).2.queue .segment rfl
  archive kind item henabled := Process.archive_ok item fun hreporting =>
    (h.reporting hreporting).2.queue kind henabled
  fini := Process.fini_ok fun hreporting => (h.reporting hreporting).2
  silent hhalted := silent_of_not_reporting (h.halted hhalted)

end Startable

/-- The first start raises with the flag up, if only the patterns of `agent_disable_plugins` are
rejected or only the module of the protocol cannot be imported. -/
theorem not_healthy_init (hlevel : config.loggingLevelKnown = true)
    (hregexes : config.regexesCompile = true) (hstartable : ¬ config.Startable) :
    ¬ Healthy config fresh (.init config) := by
  intro hhealthy
  have hunchanged := hhealthy.start
  have hcases := (Process.init config).start_cases config
  generalize (Process.init config).start config = result at hunchanged hcases
  cases hcases with
  | unlogged hunknown =>
      rw [hlevel] at hunknown
      cases hunknown
  | refused hstarted => cases hstarted
  | resumed hstarted => cases hstarted
  | unfinalized _ _ hbad =>
      rw [hregexes] at hbad
      cases hbad
  | uninstalled =>
      have hstarted := (hunchanged _ rfl).started
      obtain ⟨profile, meter, logInstalls, heq, -⟩ := (Process.init config).instrumented_eq config
      rw [heq] at hstarted
      cases hstarted
  | fresh _ _ _ hgood =>
      obtain ⟨profile, meter, logInstalls, heq, -⟩ := (Process.init config).instrumented_eq config
      have hproceed := ((Process.init config).instrumented config).proceed_cases config
      generalize ((Process.init config).instrumented config).proceed config = result
        at hunchanged hproceed
      cases hproceed with
      | unimported error himport =>
          have hstarted := (hunchanged error rfl).started
          rw [heq] at hstarted
          cases hstarted
      | done _ _ _ _ himport => exact hstartable ⟨hgood, himport⟩

/-- The agent keeps all of its promises, in every process of every tree, if and only if no start gets
past `config.finalize` with a pattern in `agent_disable_plugins` that `re.compile` rejects or a protocol
whose module cannot be imported. -/
theorem healthy_iff (config : Config) :
    (∀ actions s, Run (Step config) (.init config) actions s →
      ∀ p ∈ s.processes, Healthy config s.processes.length p) ↔
    (config.loggingLevelKnown = true → config.regexesCompile = true →
      config.disablePluginsCompile = true ∧ importProtocol config = none) := by
  constructor
  · intro hhealthy hlevel hregexes
    by_contra hstartable
    apply not_healthy_init hlevel hregexes hstartable
    exact hhealthy [] _ (.nil _) _ (List.mem_singleton.mpr rfl)
  · intro hstartable actions s hrun p hp
    exact (sound_of_run hrun p hp).healthy hstartable

/-- `agent_disable_plugins` is `(`. -/
def unclosedConfig : Config :=
  { agentProtocol := .http
    agentName := "shop"
    agentInstanceName := "shop-1"
    agentNamespace := ""
    kafkaNamespace := ""
    kafkaTopics := ⟨"management", "meter", "log", "segment"⟩
    profileActive := true
    meterReporterActive := true
    logReporterActive := true
    experimentalForkSupport := true
    hasRegisterAtFork := true
    maxsize := fun _ => 10
    loggingLevelKnown := true
    regexesCompile := true
    disablePluginsCompile := false
    packagesInstalled := true
    kafkaBootstrapServers := "localhost:9092"
    environ := []
    intMaxStrDigits := 4300 }

/-- The bootstrap servers have a setting of their own. -/
example : importProtocol { unclosedConfig with
    agentProtocol := .kafka
    environ := [("SW_KAFKA_REPORTER_CONFIG_retries", "3"),
      ("SW_KAFKA_REPORTER_CONFIG_bootstrap_servers", "kafka:9092")] } =
    some (.kafkaConfigDuplicated "bootstrap_servers") := by
  decide +kernel

/-- The start raises and leaves the flag up. A second one takes the process for a new one and goes
through, and after a `stop` the hooks that it has armed raise in the child. -/
theorem raising_start_leaves_flag :
    ((Process.init unclosedConfig).start unclosedConfig).2 = some .reError ∧
    (Process.init unclosedConfig).started = false ∧
    ((Process.init unclosedConfig).start unclosedConfig).1.started = true ∧
    ([.start 0, .start 0, .stop 0].foldlM (fun (s : State) action => s.step unclosedConfig action)
      (.init unclosedConfig)).map
        (fun s => s.processes.map fun p => (p.forkHooks, (p.fork unclosedConfig 1).2)) =
      some [(1, some .reError)] ∧
    ¬ ∀ actions s, Run (Step unclosedConfig) (.init unclosedConfig) actions s →
      ∀ p ∈ s.processes, Healthy unclosedConfig s.processes.length p := by
  refine ⟨rfl, rfl, rfl, by decide +kernel, ?_⟩
  intro hhealthy
  have hinit := hhealthy [] _ (.nil _) _ (List.mem_singleton.mpr rfl)
  exact not_healthy_init rfl rfl (fun hstartable => by cases hstartable.1) hinit

end Lifecycle

end SkyWalking
