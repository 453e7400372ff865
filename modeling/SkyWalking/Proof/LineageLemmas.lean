import Mathlib
import SkyWalking.Proof.LifecycleLemmas

/-!
# Instrumentation once per process lineage

`__started` is what keeps a start from instrumenting again. `stop` takes it down, and so the next start
on the path, be it in a child, instruments for a second time.
-/

namespace SkyWalking

namespace Lifecycle

variable {config : Config} {p p' : Process} {s s' : State}

/-- What is kept of the instrumentation. -/
structure SameLineage (p p' : Process) : Prop where
  started : p'.started = p.started
  unspoilt : p'.unspoilt = p.unspoilt
  finalizeCalls : p'.finalizeCalls = p.finalizeCalls
  logInstalls : p'.logInstalls = p.logInstalls
  pluginInstalls : p'.pluginInstalls = p.pluginInstalls
  agentName : p'.agentName = p.agentName
  kafkaTopics : p'.kafkaTopics = p.kafkaTopics

theorem SameLineage.proceed (config : Config) (p : Process) :
    SameLineage p (p.proceed config).1 := by
  have hcases := p.proceed_cases config
  generalize p.proceed config = result at hcases
  cases hcases with
  | unimported => exact ⟨rfl, rfl, rfl, rfl, rfl, rfl, rfl⟩
  | done => exact ⟨rfl, rfl, rfl, rfl, rfl, rfl, rfl⟩

theorem SameLineage.arm (config : Config) (p : Process) : SameLineage p (p.arm config).1 := by
  obtain ⟨atFork, hooks, heq, -⟩ := p.arm_eq config
  rw [heq]
  exact ⟨rfl, rfl, rfl, rfl, rfl, rfl, rfl⟩

theorem SameLineage.archive (config : Config) (kind : ItemKind) (item : Nat) (p : Process) :
    SameLineage p (p.archive config kind item).1 := by
  obtain ⟨queue, heq⟩ := p.archive_eq config kind item
  rw [heq]
  exact ⟨rfl, rfl, rfl, rfl, rfl, rfl, rfl⟩

/-- The record in a process that was never instrumented. -/
structure Untouched (config : Config) (p : Process) : Prop where
  finalizeCalls : p.finalizeCalls = 0
  logInstalls : p.logInstalls = 0
  pluginInstalls : p.pluginInstalls = 0
  agentName : p.agentName = config.agentName
  kafkaTopics : p.kafkaTopics = config.kafkaTopics

theorem Untouched.congr (h : Untouched config p) (hsame : SameLineage p p') : Untouched config p' where
  finalizeCalls := hsame.finalizeCalls.trans h.finalizeCalls
  logInstalls := hsame.logInstalls.trans h.logInstalls
  pluginInstalls := hsame.pluginInstalls.trans h.pluginInstalls
  agentName := hsame.agentName.trans h.agentName
  kafkaTopics := hsame.kafkaTopics.trans h.kafkaTopics

theorem Untouched.once (h : Untouched config p) : InstrumentedOnce config p where
  finalize_le := h.finalizeCalls ▸ Nat.zero_le 1
  logInstalls_le := h.logInstalls ▸ Nat.zero_le 1
  pluginInstalls_le := h.pluginInstalls ▸ Nat.zero_le 1
  agentName := Or.inl h.agentName
  kafkaTopics := Or.inl h.kafkaTopics

theorem InstrumentedOnce.congr (h : InstrumentedOnce config p) (hsame : SameLineage p p') :
    InstrumentedOnce config p' where
  finalize_le := hsame.finalizeCalls ▸ h.finalize_le
  logInstalls_le := hsame.logInstalls ▸ h.logInstalls_le
  pluginInstalls_le := hsame.pluginInstalls ▸ h.pluginInstalls_le
  agentName := hsame.agentName ▸ h.agentName
  kafkaTopics := hsame.kafkaTopics ▸ h.kafkaTopics

/-- On every path the calls of `config.finalize` tell the rest of the record, and the flags tell how
many there were. -/
structure Lineage (config : Config) (p : Process) : Prop where
  untouched : p.finalizeCalls = 0 → Untouched config p
  once : p.finalizeCalls = 1 → InstrumentedOnce config p
  fresh : p.started = false → p.unspoilt = true → p.finalizeCalls = 0
  used : p.started = true ∨ p.unspoilt = false → 1 ≤ p.finalizeCalls
  again : p.started = true → p.unspoilt = false → 2 ≤ p.finalizeCalls
  unlogged : config.loggingLevelKnown = false → p.started = false ∧ p.unspoilt = true

theorem Lineage.instrumentedOnce_iff (hlineage : Lineage config p) :
    InstrumentedOnce config p ↔ p.finalizeCalls ≤ 1 := by
  constructor
  · intro honce
    exact honce.finalize_le
  · intro hle
    obtain hzero | hone : p.finalizeCalls = 0 ∨ p.finalizeCalls = 1 := by omega
    · exact (hlineage.untouched hzero).once
    · exact hlineage.once hone

theorem Lineage.init (config : Config) : Lineage config (.init config) where
  untouched _ := ⟨rfl, rfl, rfl, rfl, rfl⟩
  once h := by cases h
  fresh _ _ := rfl
  used h := by simp [Process.init, Process.unspoilt] at h
  again h := by cases h
  unlogged _ := ⟨rfl, rfl⟩

theorem Lineage.congr (hlineage : Lineage config p) (hsame : SameLineage p p') :
    Lineage config p' := by
  have hcalls := hsame.finalizeCalls
  constructor
  · intro h
    exact (hlineage.untouched (hcalls.symm.trans h)).congr hsame
  · intro h
    exact (hlineage.once (hcalls.symm.trans h)).congr hsame
  · intro hstarted hunspoilt
    rw [hcalls]
    exact hlineage.fresh (hsame.started ▸ hstarted) (hsame.unspoilt ▸ hunspoilt)
  · intro h
    rw [hsame.started, hsame.unspoilt] at h
    rw [hcalls]
    exact hlineage.used h
  · intro hstarted hspoilt
    rw [hcalls]
    exact hlineage.again (hsame.started ▸ hstarted) (hsame.unspoilt ▸ hspoilt)
  · intro hlevel
    rw [hsame.started, hsame.unspoilt]
    exact hlineage.unlogged hlevel

/-- What a call of `config.finalize` that raises makes of the record. -/
structure Unfinalized (p p' : Process) : Prop where
  started : p'.started = p.started
  unspoilt : p'.unspoilt = false
  finalizeCalls : p'.finalizeCalls = p.finalizeCalls + 1
  logInstalls : p'.logInstalls = p.logInstalls
  pluginInstalls : p'.pluginInstalls = p.pluginInstalls
  agentName : p'.agentName = p.agentName
  kafkaTopics : p'.kafkaTopics = p.kafkaTopics

theorem unfinalized_lineage (config : Config) (p : Process) : Unfinalized p (p.unfinalized config) := by
  obtain ⟨profile, meter, heq⟩ := p.unfinalized_eq config
  rw [heq]
  exact ⟨rfl, by simp [Process.unspoilt], rfl, rfl, rfl, rfl, rfl⟩

/-- What the instrumentation makes of the record. -/
structure Instrumented (config : Config) (p p' : Process) : Prop where
  started : p'.started = true
  unspoilt : p'.unspoilt = p.unspoilt
  finalizeCalls : p'.finalizeCalls = p.finalizeCalls + 1
  logInstalls : p'.logInstalls ≤ p.logInstalls + 1
  pluginInstalls : p'.pluginInstalls = p.pluginInstalls + 1
  agentName : p'.agentName = suffixed config.agentNamespace p.agentName
  kafkaTopics : p'.kafkaTopics = p.kafkaTopics.prefixed config.kafkaNamespace

theorem instrumented_lineage (config : Config) (p : Process) :
    Instrumented config p (p.instrumented config) := by
  obtain ⟨profile, meter, logInstalls, heq, hle⟩ := p.instrumented_eq config
  rw [heq]
  exact ⟨rfl, rfl, rfl, hle, rfl, rfl, rfl⟩

theorem Lineage.unfinalized (hlineage : Lineage config p) (hlevel : config.loggingLevelKnown = true)
    (hstarted : p.started = false) :
    Lineage config (p.unfinalized config) := by
  have heffect := unfinalized_lineage config p
  have hcalls := heffect.finalizeCalls
  constructor
  · intro h
    omega
  · intro h
    have huntouched := hlineage.untouched (by omega)
    constructor
    · omega
    · rw [heffect.logInstalls, huntouched.logInstalls]
      omega
    · rw [heffect.pluginInstalls, huntouched.pluginInstalls]
      omega
    · exact Or.inl (heffect.agentName.trans huntouched.agentName)
    · exact Or.inl (heffect.kafkaTopics.trans huntouched.kafkaTopics)
  · intro _ hunspoilt
    rw [heffect.unspoilt] at hunspoilt
    cases hunspoilt
  · intro _
    omega
  · intro hstarted'
    rw [heffect.started, hstarted] at hstarted'
    cases hstarted'
  · intro hunknown
    rw [hlevel] at hunknown
    cases hunknown

theorem Lineage.instrumented (hlineage : Lineage config p)
    (hlevel : config.loggingLevelKnown = true) : Lineage config (p.instrumented config) := by
  have heffect := instrumented_lineage config p
  have hcalls := heffect.finalizeCalls
  constructor
  · intro h
    omega
  · intro h
    have huntouched := hlineage.untouched (by omega)
    constructor
    · omega
    · have hle := heffect.logInstalls
      rw [huntouched.logInstalls] at hle
      exact hle
    · rw [heffect.pluginInstalls, huntouched.pluginInstalls]
    · right
      rw [heffect.agentName, huntouched.agentName]
    · right
      rw [heffect.kafkaTopics, huntouched.kafkaTopics]
  · intro hstarted
    rw [heffect.started] at hstarted
    cases hstarted
  · intro _
    omega
  · intro _ hspoilt
    rw [heffect.unspoilt] at hspoilt
    have hused := hlineage.used (Or.inr hspoilt)
    omega
  · intro hunknown
    rw [hlevel] at hunknown
    cases hunknown

theorem Lineage.start {next : Process → Process × Option StartError}
    (hnext : ∀ p, SameLineage p (next p).1)
    (hlineage : Lineage config p) {result : Process × Option StartError}
    (hcases : p.Start config next result) : Lineage config result.1 := by
  cases hcases with
  | unlogged => exact hlineage
  | refused => exact hlineage
  | resumed => exact hlineage.congr (hnext p)
  | unfinalized hlevel hstarted => exact hlineage.unfinalized hlevel hstarted
  | uninstalled hlevel => exact hlineage.instrumented hlevel
  | fresh hlevel => exact (hlineage.instrumented hlevel).congr (hnext _)

theorem Lineage.stop (hlineage : Lineage config p) : Lineage config (p.stop config).1 := by
  have hcases := p.stop_cases config
  generalize p.stop config = result at hcases
  cases hcases with
  | failed => exact hlineage.congr ⟨rfl, rfl, rfl, rfl, rfl, rfl, rfl⟩
  | done =>
      constructor
      · intro h
        have huntouched := hlineage.untouched h
        exact ⟨h, huntouched.2, huntouched.3, huntouched.4, huntouched.5⟩
      · intro h
        have honce := hlineage.once h
        exact ⟨honce.1, honce.2, honce.3, honce.4, honce.5⟩
      · intro _ hunspoilt
        simp only [Process.unspoilt, Bool.not_or, Bool.and_eq_true, Bool.not_eq_eq_eq_not,
          Bool.not_true] at hunspoilt
        obtain ⟨⟨hstopped, hstarted⟩, hfailed⟩ := hunspoilt
        exact hlineage.fresh hstarted (by simp [Process.unspoilt, hstopped, hfailed])
      · intro h
        apply hlineage.used
        cases hstarted : p.started with
        | true => exact Or.inl rfl
        | false =>
            right
            simpa [Process.unspoilt, hstarted] using h
      · intro h
        cases h
      · intro hlevel
        obtain ⟨hstarted, hunspoilt⟩ := hlineage.unlogged hlevel
        refine ⟨rfl, ?_⟩
        simpa [Process.unspoilt, hstarted] using hunspoilt

/-- A child before its hooks has the record of its parent. -/
theorem SameLineage.child (pid : Nat) (p : Process) : SameLineage p (p.child pid) :=
  ⟨rfl, rfl, rfl, rfl, rfl, rfl, rfl⟩

theorem Lineage.fork (hlineage : Lineage config p) (hregistered : p.Registered) (pid : Nat) :
    Lineage config (p.fork config pid).1 := by
  obtain ⟨-, heq⟩ | ⟨-, heq⟩ := Process.fork_cases config pid hregistered
  · rw [heq]
    exact hlineage.congr ⟨rfl, rfl, rfl, rfl, rfl, rfl, rfl⟩
  · rw [heq]
    apply Lineage.start (SameLineage.proceed config) _ (Process.start_cases config (p.child pid))
    exact hlineage.congr (SameLineage.child pid p)

theorem Lineage.effect (hlineage : Lineage config p) (hregistered : p.Registered) (fresh : Nat)
    (action : Action) : Lineage config (action.effect config fresh p) := by
  cases action with
  | start => exact hlineage.start (SameLineage.proceed config) (p.start_cases config)
  | startPreforkMaster => exact hlineage.start (SameLineage.arm config) (p.startPreforkMaster_cases config)
  | stop => exact hlineage.stop
  | archive pid kind item => exact hlineage.congr (SameLineage.archive config kind item p)
  | fork => exact hlineage.fork hregistered fresh

/-- Next to the record of a process: what an action that may start something makes of the number of
calls, if the path is unspoilt and if it is not. -/
structure Counts (p p' : Process) : Prop where
  mono : p.finalizeCalls ≤ p'.finalizeCalls
  unspoilt : p.unspoilt = true → p.finalizeCalls ≤ 1 → p'.finalizeCalls ≤ 1
  spoilt : p.unspoilt = false → 2 ≤ p'.finalizeCalls

theorem Lineage.counts {next : Process → Process × Option StartError}
    (hnext : ∀ p, SameLineage p (next p).1)
    (hlineage : Lineage config p) {result : Process × Option StartError}
    (hcases : p.Start config next result) : Counts p result.1 := by
  -- A call that gets as far as `config.finalize` is the first one if and only if the path is unspoilt.
  have hagain : ∀ p' : Process, p.started = false → p'.finalizeCalls = p.finalizeCalls + 1 →
      Counts p p' := by
    intro p' hstarted hcalls
    constructor
    · omega
    · intro hunspoilt _
      have hzero := hlineage.fresh hstarted hunspoilt
      omega
    · intro hspoilt
      have hused := hlineage.used (Or.inr hspoilt)
      omega
  have hsame : ∀ p' : Process, p.started = true → p'.finalizeCalls = p.finalizeCalls →
      Counts p p' := by
    intro p' hstarted hcalls
    constructor
    · omega
    · intro _ hle
      omega
    · intro hspoilt
      rw [hcalls]
      exact hlineage.again hstarted hspoilt
  cases hcases with
  | unlogged hlevel =>
      refine ⟨Nat.le_refl _, fun _ hle => hle, ?_⟩
      intro hspoilt
      rw [(hlineage.unlogged hlevel).2] at hspoilt
      cases hspoilt
  | refused hstarted => exact hsame p hstarted rfl
  | resumed hstarted => exact hsame _ hstarted (hnext p).finalizeCalls
  | unfinalized _ hstarted => exact hagain _ hstarted (unfinalized_lineage config p).finalizeCalls
  | uninstalled _ hstarted => exact hagain _ hstarted (instrumented_lineage config p).finalizeCalls
  | fresh _ hstarted =>
      apply hagain _ hstarted
      rw [(hnext _).finalizeCalls]
      exact (instrumented_lineage config p).finalizeCalls

/-- The test of `startsOnce`, for the process that takes the action. -/
def Process.startsOnce (p : Process) : Action → Bool
  | .start _ | .startPreforkMaster _ => p.unspoilt
  | .fork _ => p.forkHooks == 0 || p.unspoilt
  | _ => true

theorem startsOnce_eq {action : Action} (hp : s.processes[action.pid]? = some p) :
    s.startsOnce action = p.startsOnce action := by
  cases action with
  | start pid => exact congrArg (Option.all Process.unspoilt) hp
  | startPreforkMaster pid => exact congrArg (Option.all Process.unspoilt) hp
  | stop pid => rfl
  | archive pid kind item => rfl
  | fork pid => exact congrArg (Option.all fun p : Process => p.forkHooks == 0 || p.unspoilt) hp

/-- An action keeps the calls at one if the test succeeds, and brings them to two if it fails. -/
theorem Lineage.effect_calls (hlineage : Lineage config p) (hregistered : p.Registered) (fresh : Nat)
    (action : Action) :
    p.finalizeCalls ≤ (action.effect config fresh p).finalizeCalls ∧
    (p.startsOnce action = true → p.finalizeCalls ≤ 1 →
      (action.effect config fresh p).finalizeCalls ≤ 1) ∧
    (p.startsOnce action = false → 2 ≤ (action.effect config fresh p).finalizeCalls) := by
  cases action with
  | start pid =>
      have hcounts := hlineage.counts (SameLineage.proceed config) (p.start_cases config)
      exact ⟨hcounts.mono, hcounts.unspoilt, hcounts.spoilt⟩
  | startPreforkMaster pid =>
      have hcounts := hlineage.counts (SameLineage.arm config) (p.startPreforkMaster_cases config)
      exact ⟨hcounts.mono, hcounts.unspoilt, hcounts.spoilt⟩
  | stop pid =>
      have hcalls : (p.stop config).1.finalizeCalls = p.finalizeCalls := by
        have hcases := p.stop_cases config
        generalize p.stop config = result at hcases
        cases hcases with
        | failed => rfl
        | done => rfl
      refine ⟨hcalls.ge, ?_, ?_⟩
      · intro _ hle
        exact hcalls.trans_le hle
      · intro h
        cases h
  | archive pid kind item =>
      have hcalls := (SameLineage.archive config kind item p).finalizeCalls
      refine ⟨hcalls.ge, ?_, ?_⟩
      · intro _ hle
        exact hcalls.trans_le hle
      · intro h
        cases h
  | fork pid =>
      unfold Action.effect Process.startsOnce
      obtain ⟨hhooks, heq⟩ | ⟨hhooks, heq⟩ := Process.fork_cases config fresh hregistered
      · rw [heq, hhooks]
        exact ⟨Nat.le_refl _, fun _ hle => hle, fun h => by cases h⟩
      · rw [heq, hhooks]
        have hchild := hlineage.congr (SameLineage.child fresh p)
        have hcounts := hchild.counts (SameLineage.proceed config)
          (Process.start_cases config (p.child fresh))
        exact ⟨hcounts.mono, hcounts.unspoilt, hcounts.spoilt⟩

variable {action : Action} {actions : List Action}

theorem registered_of_run (hrun : Run (Step config) (.init config) actions s) :
    ∀ p ∈ s.processes, p.Registered := by
  refine hrun.invariant (I := fun s => ∀ p ∈ s.processes, p.Registered) ?_ ?_
  · intro s action s' hall hstep
    apply step_forall hstep hall
    intro p hp _
    exact (hall p hp).effect s.processes.length action
  · intro p hp
    obtain rfl := List.mem_singleton.mp hp
    exact ⟨rfl, rfl⟩

theorem lineage_of_run (hrun : Run (Step config) (.init config) actions s) :
    ∀ p ∈ s.processes, Lineage config p := by
  induction hrun with
  | nil =>
      intro p hp
      obtain rfl := List.mem_singleton.mp hp
      exact Lineage.init config
  | @snoc s s' actions action hrun hstep ih =>
      apply step_forall hstep ih
      intro p hp _
      exact (ih p hp).effect (registered_of_run hrun p hp) s.processes.length action

theorem mem_of_step_effect (hstep : Step config s action s') {p : Process}
    (hp : s.processes[action.pid]? = some p) :
    action.effect config s.processes.length p ∈ s'.processes := by
  obtain ⟨q, hq, heq⟩ := step_cases hstep
  obtain rfl := Option.some.inj (hq.symm.trans hp)
  obtain heq | heq := heq
  · rw [heq]
    exact List.mem_set (List.getElem?_eq_some_iff.mp hp).1 _
  · rw [heq]
    exact List.mem_append_right _ (List.mem_singleton.mpr rfl)

/-- Nothing gets lost of what a process has called. -/
theorem step_calls_mono (hrun : Run (Step config) (.init config) actions s)
    (hstep : Step config s action s') (hone : ∀ p ∈ s'.processes, p.finalizeCalls ≤ 1) :
    ∀ p ∈ s.processes, p.finalizeCalls ≤ 1 := by
  intro p hp
  obtain ⟨index, hindex⟩ := List.mem_iff_getElem?.mp hp
  by_cases hpid : index = action.pid
  · subst hpid
    have hcalls := (lineage_of_run hrun p hp).effect_calls (registered_of_run hrun p hp)
      s.processes.length action
    exact hcalls.1.trans (hone _ (mem_of_step_effect hstep hindex))
  · obtain ⟨q, -, heq | heq⟩ := step_cases hstep
    · apply hone p
      rw [heq]
      apply List.mem_of_getElem? (i := index)
      rw [List.getElem?_set_ne (Ne.symm hpid)]
      exact hindex
    · apply hone p
      rw [heq]
      exact List.mem_append_left _ hp

/-- A second call shows in what the action has made of its process. -/
theorem guarded_of_calls_le_one (hrun : Run (Step config) (.init config) actions s)
    (hone : ∀ p ∈ s.processes, p.finalizeCalls ≤ 1) :
    Run (Guarded (fun s action => s.startsOnce action = true) (Step config)) (.init config)
      actions s := by
  induction hrun with
  | nil => exact .nil _
  | @snoc s s' actions action hrun hstep ih =>
      refine .snoc (ih (step_calls_mono hrun hstep hone)) ⟨?_, hstep⟩
      obtain ⟨p, hp, -⟩ := step_cases hstep
      have hmem := List.mem_of_getElem? hp
      have hcalls := (lineage_of_run hrun p hmem).effect_calls (registered_of_run hrun p hmem)
        s.processes.length action
      rw [startsOnce_eq hp]
      by_contra htest
      have htwo := hcalls.2.2 (Bool.eq_false_iff.mpr htest)
      have hle := hone _ (mem_of_step_effect hstep hp)
      omega

theorem calls_le_one_of_guarded
    (hrun : Run (Guarded (fun s action => s.startsOnce action = true) (Step config)) (.init config)
      actions s) :
    ∀ p ∈ s.processes, p.finalizeCalls ≤ 1 := by
  induction hrun with
  | nil =>
      intro p hp
      obtain rfl := List.mem_singleton.mp hp
      exact Nat.zero_le 1
  | @snoc s s' actions action hrun hstep ih =>
      obtain ⟨hguard, hstep⟩ := hstep
      have hrun : Run (Step config) (.init config) actions s := hrun.mono fun _ _ _ h => h.2
      apply step_forall hstep ih
      intro p hp hpid
      have hcalls := (lineage_of_run hrun p hp).effect_calls (registered_of_run hrun p hp)
        s.processes.length action
      exact hcalls.2.1 (startsOnce_eq hpid ▸ hguard) (ih p hp)

/-- A process tree is instrumented at most once on each of its paths if and only if nothing was ever
started on a path on which the flag had been taken down or `config.finalize` had raised. -/
theorem instrumented_once_iff (hrun : Run (Step config) (.init config) actions s) :
    (∀ p ∈ s.processes, InstrumentedOnce config p) ↔
      Run (Guarded (fun s action => s.startsOnce action = true) (Step config)) (.init config)
        actions s := by
  have hlineage := lineage_of_run hrun
  constructor
  · intro honce
    apply guarded_of_calls_le_one hrun
    intro p hp
    exact (honce p hp).finalize_le
  · intro hguarded p hp
    exact (hlineage p hp).instrumentedOnce_iff.mpr (calls_le_one_of_guarded hguarded p hp)

/-- A service with both namespaces, as a pre-forking server runs it. -/
def preforkConfig : Config :=
  { agentProtocol := .kafka
    agentName := "shop"
    agentInstanceName := "shop-1"
    agentNamespace := "eu"
    kafkaNamespace := "prod"
    kafkaTopics := ⟨"management", "meter", "log", "segment"⟩
    profileActive := true
    meterReporterActive := true
    logReporterActive := true
    experimentalForkSupport := true
    hasRegisterAtFork := true
    maxsize := fun _ => 10
    loggingLevelKnown := true
    regexesCompile := true
    disablePluginsCompile := true
    packagesInstalled := true
    kafkaBootstrapServers := "localhost:9092"
    environ := [("SW_KAFKA_REPORTER_CONFIG_retries", "3")]
    intMaxStrDigits := 4300 }

/-- The master forks two workers, one of which forks again and stops. -/
def preforkRun : List Action := [.startPreforkMaster 0, .fork 0, .fork 0, .fork 1, .stop 1]

theorem preforkRun_instrumented_once : ∃ s,
    Run (Step preforkConfig) (.init preforkConfig) preforkRun s ∧
    s.processes.map (fun p => (p.finalizeCalls, p.agentName)) = List.replicate 4 (1, "shop|eu") ∧
    ∀ p ∈ s.processes, InstrumentedOnce preforkConfig p := by
  have hresult : ∃ s,
      Run (Guarded (fun s action => s.startsOnce action = true) (Step preforkConfig))
        (.init preforkConfig) preforkRun s ∧
      s.processes.map (fun p => (p.finalizeCalls, p.agentName)) =
        List.replicate 4 (1, "shop|eu") := by
    apply Run.exists_of_guarded_foldlM
    decide +kernel
  obtain ⟨s, hguarded, hprocesses⟩ := hresult
  have hsteps : Run (Step preforkConfig) (.init preforkConfig) preforkRun s :=
    hguarded.mono fun _ _ _ h => h.2
  exact ⟨s, hsteps, hprocesses, (instrumented_once_iff hsteps).mpr hguarded⟩

/-- `stop` and a second `start`: `config.finalize` is executed again, and so are both installations. -/
theorem restart_instruments_twice : ∃ s,
    Run (Step preforkConfig) (.init preforkConfig) [.start 0, .stop 0, .start 0] s ∧
    s.processes.map (fun p => (p.finalizeCalls, p.logInstalls, p.pluginInstalls)) = [(2, 2, 2)] ∧
    s.processes.map (fun p => (p.agentName, p.kafkaTopics.segment)) =
      [("shop|eu|eu", "prod-prod-segment")] ∧
    ¬ ∀ p ∈ s.processes, InstrumentedOnce preforkConfig p := by
  have hresult : ∃ s,
      Run (Step preforkConfig) (.init preforkConfig) [.start 0, .stop 0, .start 0] s ∧
      s.processes.map (fun p => (p.finalizeCalls, p.logInstalls, p.pluginInstalls)) = [(2, 2, 2)] ∧
      s.processes.map (fun p => (p.agentName, p.kafkaTopics.segment)) =
        [("shop|eu|eu", "prod-prod-segment")] := by
    apply Run.exists_of_foldlM
    decide +kernel
  obtain ⟨s, hrun, hcounts, hnames⟩ := hresult
  refine ⟨s, hrun, hcounts, hnames, ?_⟩
  intro honce
  obtain ⟨p, hp, heq⟩ := List.mem_map.mp (hcounts ▸ List.mem_singleton.mpr rfl)
  have hle := (honce p hp).finalize_le
  have htwo := congrArg Prod.fst heq
  dsimp only at htwo
  omega

end Lifecycle

end SkyWalking
