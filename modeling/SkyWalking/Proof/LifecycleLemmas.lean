import Mathlib
import SkyWalking.Lib.Slot
import SkyWalking.Agent.Lifecycle

/-!
# What a start can do

Every start comes down to one of six cases, which the two results about process trees share.
-/

namespace SkyWalking

namespace Lifecycle

variable {config : Config} {p p' : Process}

namespace Process

/-- What a call of `__init_instrumentation` leaves behind that raises in `config.finalize`. -/
def unfinalized (config : Config) (p : Process) : Process :=
  { finalizeFeature config { p with finalizeCalls := p.finalizeCalls + 1 } with failed := true }

/-- What `__init_instrumentation` leaves behind otherwise. -/
def instrumented (config : Config) (p : Process) : Process :=
  (installAll config { finalizeName config (finalizeFeature config
    { p with finalizeCalls := p.finalizeCalls + 1 }) with started := true }).1

inductive Instrumentation (config : Config) (p : Process) : Process × Option StartError → Prop where
  | unfinalized : config.regexesCompile = false →
      Instrumentation config p (p.unfinalized config, some .reError)
  | uninstalled : config.regexesCompile = true → config.disablePluginsCompile = false →
      Instrumentation config p (p.instrumented config, some .reError)
  | done : config.regexesCompile = true → config.disablePluginsCompile = true →
      Instrumentation config p (p.instrumented config, none)

theorem initInstrumentation_cases (config : Config) (p : Process) :
    Instrumentation config p (p.initInstrumentation config) := by
  unfold initInstrumentation finalize
  cases hregexes : config.regexesCompile with
  | false => exact .unfinalized hregexes
  | true =>
      cases hdisable : config.disablePluginsCompile with
      | false =>
          have h := Instrumentation.uninstalled (p := p) hregexes hdisable
          simpa [instrumented, installAll, hdisable] using h
      | true =>
          have h := Instrumentation.done (p := p) hregexes hdisable
          simpa [instrumented, installAll, hdisable] using h

/-- What the calls that start something have in common: `next` is what follows the instrumentation. -/
inductive Start (config : Config) (next : Process → Process × Option StartError) (p : Process) :
    Process × Option StartError → Prop where
  | unlogged : config.loggingLevelKnown = false → Start config next p (p, some .valueError)
  | refused : p.started = true → p.startedPid = some p.pid →
      Start config next p (p, some .runtimeError)
  | resumed : p.started = true → Start config next p (next p)
  | unfinalized : config.loggingLevelKnown = true → p.started = false →
      config.regexesCompile = false →
      Start config next p (p.unfinalized config, some .reError)
  | uninstalled : config.loggingLevelKnown = true → p.started = false →
      config.regexesCompile = true → config.disablePluginsCompile = false →
      Start config next p (p.instrumented config, some .reError)
  | fresh : config.loggingLevelKnown = true → p.started = false →
      config.regexesCompile = true → config.disablePluginsCompile = true →
      Start config next p (next (p.instrumented config))

theorem start_cases (config : Config) (p : Process) :
    Start config (proceed config) p (p.start config) := by
  unfold start
  cases hlevel : config.loggingLevelKnown with
  | false => exact .unlogged hlevel
  | true =>
      cases hstarted : p.started with
      | true =>
          by_cases hpid : p.startedPid = some p.pid
          · simpa [hpid] using Start.refused hstarted hpid
          · simpa [hpid] using Start.resumed hstarted
      | false =>
          have hcases := initInstrumentation_cases config p
          generalize p.initInstrumentation config = result at hcases
          cases hcases with
          | unfinalized hregexes => exact .unfinalized hlevel hstarted hregexes
          | uninstalled hregexes hdisable => exact .uninstalled hlevel hstarted hregexes hdisable
          | done hregexes hdisable => exact .fresh hlevel hstarted hregexes hdisable

theorem startPreforkMaster_cases (config : Config) (p : Process) :
    Start config (arm config) p (p.startPreforkMaster config) := by
  unfold startPreforkMaster
  cases hlevel : config.loggingLevelKnown with
  | false => exact .unlogged hlevel
  | true =>
      cases hstarted : p.started with
      | true => exact .resumed hstarted
      | false =>
          have hcases := initInstrumentation_cases config p
          generalize p.initInstrumentation config = result at hcases
          cases hcases with
          | unfinalized hregexes => exact .unfinalized hlevel hstarted hregexes
          | uninstalled hregexes hdisable => exact .uninstalled hlevel hstarted hregexes hdisable
          | done hregexes hdisable => exact .fresh hlevel hstarted hregexes hdisable

theorem finalizeFeature_eq (config : Config) (p : Process) : ∃ profile meter,
    p.finalizeFeature config =
      { p with
        profileActive := profile
        meterReporterActive := meter } := by
  unfold finalizeFeature
  split
  · exact ⟨false, false, rfl⟩
  · split
    · exact ⟨false, p.meterReporterActive, rfl⟩
    · exact ⟨p.profileActive, p.meterReporterActive, rfl⟩

theorem unfinalized_eq (config : Config) (p : Process) : ∃ profile meter,
    p.unfinalized config =
      { p with
        finalizeCalls := p.finalizeCalls + 1
        profileActive := profile
        meterReporterActive := meter
        failed := true } := by
  obtain ⟨profile, meter, heq⟩ := finalizeFeature_eq config
    { p with finalizeCalls := p.finalizeCalls + 1 }
  refine ⟨profile, meter, ?_⟩
  unfold unfinalized
  rw [heq]

theorem instrumented_eq (config : Config) (p : Process) : ∃ profile meter logInstalls,
    p.instrumented config =
      { p with
        finalizeCalls := p.finalizeCalls + 1
        profileActive := profile
        meterReporterActive := meter
        agentName := suffixed config.agentNamespace p.agentName
        kafkaTopics := p.kafkaTopics.prefixed config.kafkaNamespace
        started := true
        logInstalls := logInstalls
        pluginInstalls := p.pluginInstalls + 1 } ∧
    logInstalls ≤ p.logInstalls + 1 := by
  obtain ⟨profile, meter, heq⟩ := finalizeFeature_eq config
    { p with finalizeCalls := p.finalizeCalls + 1 }
  unfold instrumented installAll finalizeName
  rw [heq]
  dsimp only
  split
  · exact ⟨profile, meter, p.logInstalls + 1, rfl, Nat.le_refl _⟩
  · exact ⟨profile, meter, p.logInstalls, rfl, Nat.le_succ _⟩

/-- The flags tell what is registered. -/
structure Registered (p : Process) : Prop where
  atexit : p.atexit = p.finiRegistered.toNat
  forkHooks : p.forkHooks = p.atForkRegistered.toNat

theorem armForkHooks_eq (config : Config) (p : Process) : ∃ registered hooks,
    p.armForkHooks config =
      { p with
        atForkRegistered := registered
        forkHooks := hooks } ∧
    (p.forkHooks = p.atForkRegistered.toNat → hooks = registered.toNat) := by
  unfold armForkHooks registerForkHooks
  split
  · split
    · exact ⟨p.atForkRegistered, p.forkHooks, rfl, id⟩
    · next hnot =>
      split
      · refine ⟨true, p.forkHooks + 1, rfl, ?_⟩
        intro h
        rw [h, Bool.eq_false_iff.mpr hnot]
        rfl
      · exact ⟨p.atForkRegistered, p.forkHooks, rfl, id⟩
  · exact ⟨p.atForkRegistered, p.forkHooks, rfl, id⟩

theorem registerFini_eq (p : Process) : ∃ registered atexit,
    p.registerFini =
      { p with
        finiRegistered := registered
        atexit := atexit } ∧
    (p.atexit = p.finiRegistered.toNat → atexit = registered.toNat) := by
  unfold registerFini
  split
  · exact ⟨p.finiRegistered, p.atexit, rfl, id⟩
  · next hnot =>
    refine ⟨true, p.atexit + 1, rfl, ?_⟩
    intro h
    rw [h, Bool.eq_false_iff.mpr hnot]
    rfl

/-- `start` from the assignment of the pid on, but for the registrations. -/
def booted (config : Config) (p : Process) : Process :=
  { p with
    startedPid := some p.pid
    queue := fun kind => if p.enabled config kind then .queue [] else .noneValue
    protocol := some ⟨config.agentProtocol, p.serials⟩
    serials := p.serials + 1
    finished := some false
    reporting := true
    halted := false }

/-- What follows the instrumentation in `start`, if the module of the protocol can be imported and if it
cannot. -/
inductive Proceed (config : Config) (p : Process) : Process × Option StartError → Prop where
  | unimported (error : StartError) : importProtocol config = some error →
      Proceed config p (initQueues config { p with startedPid := some p.pid }, some error)
  | done (fini : Bool) (atexit : Nat) (atFork : Bool) (hooks : Nat) :
      importProtocol config = none → (p.Registered → atexit = fini.toNat ∧ hooks = atFork.toNat) →
      Proceed config p
        ({ p.booted config with
            finiRegistered := fini
            atexit := atexit
            atForkRegistered := atFork
            forkHooks := hooks }, none)

theorem proceed_cases (config : Config) (p : Process) : Proceed config p (p.proceed config) := by
  unfold proceed bootstrap
  dsimp only
  cases himport : importProtocol config with
  | some error => exact .unimported error himport
  | none =>
      have hbooted : p.booted config =
          { initQueues config { p with startedPid := some p.pid } with
            protocol := some ⟨config.agentProtocol, p.serials⟩
            serials := p.serials + 1
            finished := some false
            reporting := true
            halted := false } := rfl
      obtain ⟨fini, atexit, hfini, hatexit⟩ := registerFini_eq
        { initQueues config { p with startedPid := some p.pid } with
          protocol := some ⟨config.agentProtocol, p.serials⟩
          serials := p.serials + 1
          finished := some false
          reporting := true }
      obtain ⟨atFork, hooks, hfork, hhooks⟩ := armForkHooks_eq config
        { initQueues config { p with startedPid := some p.pid } with
          protocol := some ⟨config.agentProtocol, p.serials⟩
          serials := p.serials + 1
          finished := some false
          reporting := true
          finiRegistered := fini
          atexit := atexit }
      have hdone := Proceed.done (p := p) fini atexit atFork hooks himport
        fun hregistered => ⟨hatexit hregistered.atexit, hhooks hregistered.forkHooks⟩
      dsimp only
      simp only [initQueues] at hfini hfork ⊢
      rw [hfini, hfork]
      exact hdone

theorem arm_eq (config : Config) (p : Process) : ∃ atFork hooks,
    p.arm config =
      ({ p with
          startedPid := some p.pid
          atForkRegistered := atFork
          forkHooks := hooks }, none) ∧
    (p.Registered → hooks = atFork.toNat) := by
  obtain ⟨atFork, hooks, hfork, hhooks⟩ := armForkHooks_eq config { p with startedPid := some p.pid }
  refine ⟨atFork, hooks, ?_, fun hregistered => hhooks hregistered.forkHooks⟩
  unfold arm
  rw [hfork]

theorem shutdownQueues_eq (p : Process) (kinds : List ItemKind) :
    ∃ queue, (p.shutdownQueues kinds).1 = { p with queue := queue } := by
  induction kinds generalizing p with
  | nil => exact ⟨p.queue, rfl⟩
  | cons kind rest ih =>
      unfold shutdownQueues
      split
      · obtain ⟨queue, hqueue⟩ := ih { p with queue := Function.update p.queue kind (.queue []) }
        exact ⟨queue, hqueue⟩
      · exact ⟨p.queue, rfl⟩

theorem fini_eq (config : Config) (p : Process) : ∃ queue finished,
    (p.fini config).1 =
      { p with
        queue := queue
        finished := finished } := by
  unfold fini
  split
  · split
    · obtain ⟨queue, hqueue⟩ := shutdownQueues_eq { p with finished := some true } (p.finiQueues config)
      exact ⟨queue, some true, hqueue⟩
    · exact ⟨p.queue, p.finished, rfl⟩
  · exact ⟨p.queue, p.finished, rfl⟩

/-- What `stop` leaves behind, if `__fini` raises and if it does not. -/
inductive Stop (p : Process) : Process × Except PyError Unit → Prop where
  | failed (queue : ItemKind → QueueAttr) (finished : Option Bool) (error : PyError) :
      Stop p ({ p with
        atexit := 0
        finiRegistered := false
        queue := queue
        finished := finished }, .error error)
  | done (queue : ItemKind → QueueAttr) (finished : Option Bool) :
      Stop p ({ p with
        atexit := 0
        finiRegistered := false
        queue := queue
        finished := finished
        reporting := false
        stopped := p.stopped || p.started
        started := false
        halted := true }, .ok ())

theorem stop_cases (config : Config) (p : Process) : Stop p (p.stop config) := by
  obtain ⟨queue, finished, heq⟩ := fini_eq config
    { p with
      atexit := 0
      finiRegistered := false }
  unfold stop
  dsimp only
  generalize fini config { p with
      atexit := 0
      finiRegistered := false } = result at heq
  obtain ⟨p', outcome⟩ := result
  obtain rfl := heq
  cases outcome with
  | error error => exact .failed queue finished error
  | ok _ => exact .done queue finished

theorem archive_eq (config : Config) (kind : ItemKind) (item : Nat) (p : Process) :
    ∃ queue, (p.archive config kind item).1 = { p with queue := queue } := by
  unfold archive
  split
  · split
    · split
      · exact ⟨_, rfl⟩
      · exact ⟨p.queue, rfl⟩
    · exact ⟨p.queue, rfl⟩
  · exact ⟨p.queue, rfl⟩

namespace Registered

theorem unfinalized (h : p.Registered) : (p.unfinalized config).Registered := by
  obtain ⟨profile, meter, heq⟩ := p.unfinalized_eq config
  rw [heq]
  exact ⟨h.atexit, h.forkHooks⟩

theorem instrumented (h : p.Registered) : (p.instrumented config).Registered := by
  obtain ⟨profile, meter, logInstalls, heq, -⟩ := p.instrumented_eq config
  rw [heq]
  exact ⟨h.atexit, h.forkHooks⟩

theorem proceed (h : p.Registered) : (p.proceed config).1.Registered := by
  have hcases := p.proceed_cases config
  generalize p.proceed config = result at hcases
  cases hcases with
  | unimported => exact ⟨h.atexit, h.forkHooks⟩
  | done fini atexit atFork hooks _ hregistered => exact ⟨(hregistered h).1, (hregistered h).2⟩

theorem arm (h : p.Registered) : (p.arm config).1.Registered := by
  obtain ⟨atFork, hooks, heq, hregistered⟩ := p.arm_eq config
  rw [heq]
  exact ⟨h.atexit, hregistered h⟩

theorem start {next : Process → Process × Option StartError}
    (hnext : ∀ {p : Process}, p.Registered → (next p).1.Registered) (h : p.Registered) {result : Process × Option StartError} (hcases : p.Start config next result) :
    result.1.Registered := by
  cases hcases with
  | unlogged => exact h
  | refused => exact h
  | resumed => exact hnext h
  | unfinalized => exact h.unfinalized
  | uninstalled => exact h.instrumented
  | fresh => exact hnext h.instrumented

theorem stop (h : p.Registered) : (p.stop config).1.Registered := by
  have hcases := p.stop_cases config
  generalize p.stop config = result at hcases
  cases hcases with
  | failed => exact ⟨rfl, h.forkHooks⟩
  | done => exact ⟨rfl, h.forkHooks⟩

theorem archive (h : p.Registered) (kind : ItemKind) (item : Nat) :
    (p.archive config kind item).1.Registered := by
  obtain ⟨queue, heq⟩ := p.archive_eq config kind item
  rw [heq]
  exact ⟨h.atexit, h.forkHooks⟩

theorem forkHooks_le (h : p.Registered) : p.forkHooks ≤ 1 := by
  rw [h.forkHooks]
  exact Bool.toNat_le _

theorem atexit_le (h : p.Registered) : p.atexit ≤ 1 := by
  rw [h.atexit]
  exact Bool.toNat_le _

end Registered

/-- The child before its hooks. -/
def child (pid : Nat) (p : Process) : Process :=
  { p with
    pid := pid
    agentInstanceName := p.agentInstanceName ++ "-child(" ++ toString pid ++ ")" }

theorem runForkHooks_one (config : Config) (p : Process) :
    p.runForkHooks config 1 = p.forkAfterInChild config := by
  unfold runForkHooks runForkHooks
  cases h : p.forkAfterInChild config with
  | mk p' error =>
      cases error with
      | none => rfl
      | some error => rfl

/-- The child of a process without hooks goes on as it is, that of one with hooks is started. -/
theorem fork_cases (config : Config) (pid : Nat) (h : p.Registered) :
    p.forkHooks = 0 ∧ p.fork config pid = ({ p with pid := pid }, none) ∨
      p.forkHooks = 1 ∧ p.fork config pid = (p.child pid).start config := by
  obtain hzero | hone : p.forkHooks = 0 ∨ p.forkHooks = 1 := by
    have hle := h.forkHooks_le
    omega
  · left
    refine ⟨hzero, ?_⟩
    rw [fork, hzero]
    rfl
  · right
    refine ⟨hone, ?_⟩
    calc p.fork config pid
        = runForkHooks config { p with pid := pid } p.forkHooks := rfl
      _ = runForkHooks config { p with pid := pid } 1 := congrArg _ hone
      _ = (p.child pid).start config := runForkHooks_one config { p with pid := pid }

theorem Registered.fork (h : p.Registered) (pid : Nat) : (p.fork config pid).1.Registered := by
  obtain ⟨-, heq⟩ | ⟨-, heq⟩ := fork_cases config pid h
  · rw [heq]
    exact ⟨h.atexit, h.forkHooks⟩
  · rw [heq]
    apply Registered.start Registered.proceed _ (start_cases config (p.child pid))
    exact ⟨h.atexit, h.forkHooks⟩

end Process

namespace Action

/-- The process that takes the action. -/
def pid : Action → Nat
  | start pid | startPreforkMaster pid | stop pid | archive pid _ _ | fork pid => pid

/-- What becomes of that process, and for a fork its child; `fresh` is the id of the next process. -/
def effect (config : Config) (fresh : Nat) (p : Process) : Action → Process
  | start _ => (p.start config).1
  | startPreforkMaster _ => (p.startPreforkMaster config).1
  | stop _ => (p.stop config).1
  | archive _ kind item => (p.archive config kind item).1
  | fork _ => (p.fork config fresh).1

end Action

variable {s s' : State} {action : Action}

/-- One process goes on, or one is added. -/
theorem step_cases (hstep : Step config s action s') : ∃ p, s.processes[action.pid]? = some p ∧
    (s'.processes = s.processes.set action.pid (action.effect config s.processes.length p) ∨
      s'.processes = s.processes ++ [action.effect config s.processes.length p]) := by
  cases action with
  | start pid =>
      obtain ⟨p, hp, rfl⟩ := Option.map_eq_some_iff.mp hstep
      exact ⟨p, hp, Or.inl rfl⟩
  | startPreforkMaster pid =>
      obtain ⟨p, hp, rfl⟩ := Option.map_eq_some_iff.mp hstep
      exact ⟨p, hp, Or.inl rfl⟩
  | stop pid =>
      obtain ⟨p, hp, rfl⟩ := Option.map_eq_some_iff.mp hstep
      exact ⟨p, hp, Or.inl rfl⟩
  | archive pid kind item =>
      obtain ⟨p, hp, rfl⟩ := Option.map_eq_some_iff.mp hstep
      exact ⟨p, hp, Or.inl rfl⟩
  | fork pid =>
      obtain ⟨p, hp, rfl⟩ := Option.map_eq_some_iff.mp hstep
      exact ⟨p, hp, Or.inr rfl⟩

/-- What holds of all processes and of what the action makes of its own holds of all after it. -/
theorem step_forall {P : Process → Prop} (hstep : Step config s action s')
    (hall : ∀ p ∈ s.processes, P p)
    (heffect : ∀ p ∈ s.processes, s.processes[action.pid]? = some p →
      P (action.effect config s.processes.length p)) :
    ∀ p ∈ s'.processes, P p := by
  obtain ⟨p, hp, heq | heq⟩ := step_cases hstep
  · rw [heq]
    exact Slot.forall_mem_set hall (heffect p (List.mem_of_getElem? hp) hp)
  · rw [heq]
    intro q hq
    rw [List.mem_append, List.mem_singleton] at hq
    obtain hq | rfl := hq
    · exact hall q hq
    · exact heffect p (List.mem_of_getElem? hp) hp

theorem Process.Registered.effect (h : p.Registered) (fresh : Nat) (action : Action) :
    (action.effect config fresh p).Registered := by
  cases action with
  | start => exact Registered.start Registered.proceed h (p.start_cases config)
  | startPreforkMaster => exact Registered.start Registered.arm h (p.startPreforkMaster_cases config)
  | stop => exact h.stop
  | archive pid kind item => exact h.archive kind item
  | fork => exact h.fork fresh

end Lifecycle

end SkyWalking
