import SkyWalking.Lib.Text
import SkyWalking.Proof.LineageLemmas

/-!
# Instance names across forks

The hook of a child puts the child's id behind the name that it has inherited. A name can be read back
from its end, and so it tells the whole path to its process.
-/

namespace SkyWalking

namespace Lifecycle

variable {config : Config} {p : Process} {s s' : State} {action : Action} {actions : List Action}

/-- What follows the last separator is determined. -/
theorem append_cons_inj_of_not_mem {α : Type} {a : α} {l r d e : List α} (hd : a ∉ d) (he : a ∉ e)
    (h : l ++ a :: d = r ++ a :: e) : l = r ∧ d = e := by
  obtain ⟨between, hr, hrest⟩ | ⟨between, hl, hrest⟩ := List.append_eq_append_iff.mp h
  · cases between with
    | nil => exact ⟨by simpa using hr.symm, by simpa using hrest⟩
    | cons b between =>
        rw [List.cons_append, List.cons.injEq] at hrest
        exact absurd (hrest.2 ▸ List.mem_append_right between List.mem_cons_self) hd
  · cases between with
    | nil => exact ⟨by simpa using hl, by simpa using hrest.symm⟩
    | cons b between =>
        rw [List.cons_append, List.cons.injEq] at hrest
        exact absurd (hrest.2 ▸ List.mem_append_right between List.mem_cons_self) he

theorem not_mem_toString (pid : Nat) : '(' ∉ (toString pid).toList := by
  intro hmem
  have hdigit := Text.isDigit_of_mem_repr _ hmem
  revert hdigit
  decide

theorem toList_childName (name : String) (pid : Nat) :
    (name ++ "-child(" ++ toString pid ++ ")").toList =
      (name.toList ++ "-child".toList ++ '(' :: (toString pid).toList) ++ [')'] := by
  have hopen : "-child(".toList = "-child".toList ++ ['('] := by decide
  have hclose : ")".toList = [')'] := by decide
  simp only [String.toList_append, hopen, hclose, List.append_assoc, List.cons_append, List.nil_append]

/-- The name of a child tells its id and the name of its parent. -/
theorem childName_inj {name name' : String} {pid pid' : Nat}
    (h : name ++ "-child(" ++ toString pid ++ ")" = name' ++ "-child(" ++ toString pid' ++ ")") :
    name = name' ∧ pid = pid' := by
  have hlist := congrArg String.toList h
  rw [toList_childName, toList_childName] at hlist
  obtain ⟨hname, hdigits⟩ := append_cons_inj_of_not_mem (not_mem_toString pid) (not_mem_toString pid')
    (List.append_cancel_right hlist)
  constructor
  · exact String.toList_inj.mp (List.append_cancel_right hname)
  · exact Nat.repr_injective (String.toList_inj.mp hdigits)

theorem nameOf_append (name : String) (path : List Nat) (pid : Nat) :
    nameOf name (path ++ [pid]) = nameOf name path ++ "-child(" ++ toString pid ++ ")" := by
  rw [nameOf, List.foldl_append]
  rfl

theorem length_nameOf_append (name : String) (path : List Nat) (pid : Nat) :
    name.length < (nameOf name (path ++ [pid])).length := by
  induction path using List.reverseRecOn generalizing pid with
  | nil =>
      rw [nameOf_append]
      have hclose : ")".length = 1 := by decide
      simp only [nameOf, List.foldl_nil, String.length_append]
      omega
  | append_singleton path last ih =>
      rw [nameOf_append]
      have hlast := ih last
      simp only [String.length_append]
      omega

/-- By induction from the end of the path: the empty path is the only one whose name is no longer than
that of the first process. -/
theorem nameOf_injective (name : String) : Function.Injective (nameOf name) := by
  intro path
  induction path using List.reverseRecOn with
  | nil =>
      intro path' h
      obtain rfl | ⟨front, last, rfl⟩ := List.eq_nil_or_concat' path'
      · rfl
      · have hlt := length_nameOf_append name front last
        rw [← h] at hlt
        exact absurd hlt (lt_irrefl _)
  | append_singleton front last ih =>
      intro path' h
      obtain rfl | ⟨front', last', rfl⟩ := List.eq_nil_or_concat' path'
      · have hlt := length_nameOf_append name front last
        rw [h] at hlt
        exact absurd hlt (lt_irrefl _)
      · rw [nameOf_append, nameOf_append] at h
        obtain ⟨hfront, rfl⟩ := childName_inj h
        rw [ih hfront]

theorem lineages_append (actions : List Action) (action : Action) :
    lineages (actions ++ [action]) =
      match action with
      | .fork pid => lineages actions ++ [(lineages actions).getD pid [] ++ [(lineages actions).length]]
      | _ => lineages actions := by
  rw [lineages, List.foldl_append]
  rfl

/-- A path goes through ids that were there before, and so a new process has a new one. -/
theorem lt_length_of_mem_lineages (actions : List Action) :
    ∀ path ∈ lineages actions, ∀ pid ∈ path, pid < (lineages actions).length := by
  induction actions using List.reverseRecOn with
  | nil =>
      intro path hpath pid hpid
      obtain rfl := List.mem_singleton.mp hpath
      cases hpid
  | append_singleton actions action ih =>
      rw [lineages_append]
      split
      · next forking =>
          have hparent : ∀ pid ∈ (lineages actions).getD forking [], pid < (lineages actions).length := by
            intro pid hpid
            rw [List.getD_eq_getElem?_getD] at hpid
            cases hpath : (lineages actions)[forking]? with
            | none =>
                rw [hpath] at hpid
                cases hpid
            | some path =>
                rw [hpath] at hpid
                exact ih path (List.mem_of_getElem? hpath) pid hpid
          intro path hpath pid hpid
          rw [List.length_append, List.length_singleton]
          obtain hpath | hpath := List.mem_append.mp hpath
          · exact Nat.lt_succ_of_lt (ih path hpath pid hpid)
          · obtain rfl := List.mem_singleton.mp hpath
            obtain hpid | hpid := List.mem_append.mp hpid
            · exact Nat.lt_succ_of_lt (hparent pid hpid)
            · obtain rfl := List.mem_singleton.mp hpid
              exact Nat.lt_succ_self _
      · exact ih

theorem nodup_lineages (actions : List Action) : (lineages actions).Nodup := by
  induction actions using List.reverseRecOn with
  | nil => exact List.nodup_singleton []
  | append_singleton actions action ih =>
      rw [lineages_append]
      split
      · apply List.nodup_append.mpr ⟨ih, List.nodup_singleton _, _⟩
        intro path hpath fresh hfresh heq
        rw [List.mem_singleton] at hfresh
        have hlt := lt_length_of_mem_lineages actions path hpath (lineages actions).length
          (heq ▸ hfresh ▸ List.mem_append_right _ List.mem_cons_self)
        exact absurd hlt (lt_irrefl _)
      · exact ih

theorem agentInstanceName_start {next : Process → Process × Option StartError}
    (hnext : ∀ p, (next p).1.agentInstanceName = p.agentInstanceName)
    {result : Process × Option StartError} (hcases : p.Start config next result) :
    result.1.agentInstanceName = p.agentInstanceName := by
  have hinstrumented : (p.instrumented config).agentInstanceName = p.agentInstanceName := by
    obtain ⟨profile, meter, logInstalls, heq, -⟩ := p.instrumented_eq config
    rw [heq]
  cases hcases with
  | unlogged => rfl
  | refused => rfl
  | resumed => exact hnext p
  | unfinalized =>
      obtain ⟨profile, meter, heq⟩ := p.unfinalized_eq config
      rw [heq]
  | uninstalled => exact hinstrumented
  | fresh => exact (hnext _).trans hinstrumented

theorem agentInstanceName_proceed (config : Config) (p : Process) :
    (p.proceed config).1.agentInstanceName = p.agentInstanceName := by
  have hcases := p.proceed_cases config
  generalize p.proceed config = result at hcases
  cases hcases with
  | unimported => rfl
  | done => rfl

theorem agentInstanceName_arm (config : Config) (p : Process) :
    (p.arm config).1.agentInstanceName = p.agentInstanceName := by
  obtain ⟨atFork, hooks, heq, -⟩ := p.arm_eq config
  rw [heq]

/-- What becomes of the names, by what the process that takes the action has registered. -/
inductive Naming (s : State) : Action → List String → Prop where
  | kept {action : Action} : (∀ pid, action ≠ .fork pid) → Naming s action s.instanceNames
  | inherited {pid : Nat} {p : Process} : s.processes[pid]? = some p → p.forkHooks = 0 →
      Naming s (.fork pid) (s.instanceNames ++ [p.agentInstanceName])
  | child {pid : Nat} {p : Process} : s.processes[pid]? = some p → p.forkHooks = 1 →
      Naming s (.fork pid) (s.instanceNames ++
        [p.agentInstanceName ++ "-child(" ++ toString s.processes.length ++ ")"])

theorem naming_of_update {pid : Nat} {f : Process → Process}
    (hname : ∀ p, (f p).agentInstanceName = p.agentInstanceName) (hstep : s.update pid f = some s')
    (hfork : ∀ pid, action ≠ .fork pid) : Naming s action s'.instanceNames := by
  obtain ⟨p, hp, rfl⟩ := Option.map_eq_some_iff.mp hstep
  have hkept : State.instanceNames ⟨s.processes.set pid (f p)⟩ = s.instanceNames := by
    obtain ⟨hlt, rfl⟩ := List.getElem?_eq_some_iff.mp hp
    calc (s.processes.set pid (f s.processes[pid])).map Process.agentInstanceName
        = s.instanceNames.set pid s.processes[pid].agentInstanceName := by
          rw [List.map_set, hname, State.instanceNames]
      _ = s.instanceNames := by
          rw [← List.getElem_map Process.agentInstanceName (h := by simpa using hlt)]
          exact List.set_getElem_self _
  rw [hkept]
  exact .kept hfork

theorem naming_of_step (hrun : Run (Step config) (.init config) actions s)
    (hstep : Step config s action s') : Naming s action s'.instanceNames := by
  cases action with
  | start pid =>
      refine naming_of_update (fun p => ?_) hstep (by simp)
      exact agentInstanceName_start (agentInstanceName_proceed config) (p.start_cases config)
  | startPreforkMaster pid =>
      refine naming_of_update (fun p => ?_) hstep (by simp)
      exact agentInstanceName_start (agentInstanceName_arm config) (p.startPreforkMaster_cases config)
  | stop pid =>
      refine naming_of_update (fun p => ?_) hstep (by simp)
      have hcases := p.stop_cases config
      generalize p.stop config = result at hcases
      cases hcases with
      | failed => rfl
      | done => rfl
  | archive pid kind item =>
      refine naming_of_update (fun p => ?_) hstep (by simp)
      obtain ⟨queue, heq⟩ := p.archive_eq config kind item
      rw [heq]
  | fork pid =>
      obtain ⟨p, hp, rfl⟩ := Option.map_eq_some_iff.mp hstep
      have hregistered := registered_of_run hrun p (List.mem_of_getElem? hp)
      rw [State.instanceNames, List.map_append, List.map_singleton]
      obtain ⟨hhooks, heq⟩ | ⟨hhooks, heq⟩ :=
        Process.fork_cases config s.processes.length hregistered
      · rw [heq]
        exact Naming.inherited (p := p) hp hhooks
      · have hcases := Process.start_cases config (p.child s.processes.length)
        rw [heq, agentInstanceName_start (agentInstanceName_proceed config) hcases]
        exact .child hp hhooks

theorem getElem?_instanceNames {pid : Nat} (hp : s.processes[pid]? = some p) :
    s.instanceNames[pid]? = some p.agentInstanceName := by
  rw [State.instanceNames, List.getElem?_map, hp]
  rfl

/-- Two processes have one name as soon as a fork without a hook was made, for names stay. -/
theorem hooked_of_nodup (hrun : Run (Step config) (.init config) actions s)
    (hnodup : s.instanceNames.Nodup) :
    Run (Guarded (fun s action => s.forksHooked action = true) (Step config)) (.init config)
      actions s := by
  induction hrun with
  | nil => exact .nil _
  | @snoc s s' actions action hrun hstep ih =>
      have hnaming := naming_of_step hrun hstep
      generalize s'.instanceNames = names at hnodup hnaming
      cases hnaming with
      | kept hfork =>
          refine .snoc (ih hnodup) ⟨?_, hstep⟩
          cases action with
          | fork pid => exact absurd rfl (hfork pid)
          | _ => rfl
      | inherited hp hhooks =>
          have hmem := List.mem_of_getElem? (getElem?_instanceNames hp)
          exact absurd rfl ((List.nodup_append.mp hnodup).2.2 _ hmem _ List.mem_cons_self)
      | child hp hhooks =>
          refine .snoc (ih (List.nodup_append.mp hnodup).1) ⟨?_, hstep⟩
          simp [State.forksHooked, hp, hhooks]

/-- As long as there is a hook for each fork, a name is what the hooks on the path have made of the
first one. -/
theorem instanceNames_of_hooked
    (hrun : Run (Guarded (fun s action => s.forksHooked action = true) (Step config)) (.init config)
      actions s) :
    s.instanceNames = (lineages actions).map (nameOf config.agentInstanceName) := by
  induction hrun with
  | nil => rfl
  | @snoc s s' actions action hrun hstep ih =>
      obtain ⟨hhooked, hstep⟩ := hstep
      have hnaming := naming_of_step (hrun.mono fun _ _ _ h => h.2) hstep
      have hlength : s.processes.length = (lineages actions).length := by
        have hmap := congrArg List.length ih
        rwa [State.instanceNames, List.length_map, List.length_map] at hmap
      generalize s'.instanceNames = names at hnaming
      cases hnaming with
      | kept hfork =>
          cases action with
          | fork pid => exact absurd rfl (hfork pid)
          | _ =>
              rw [lineages_append]
              exact ih
      | inherited hp hhooks => simp [State.forksHooked, hp, hhooks] at hhooked
      | @child pid p hp hhooks =>
          have hname := getElem?_instanceNames hp
          rw [ih, List.getElem?_map, Option.map_eq_some_iff] at hname
          obtain ⟨path, hpath, hname⟩ := hname
          rw [lineages_append, List.map_append, List.map_singleton, ih, nameOf_append,
            List.getD_eq_getElem?_getD, hpath, Option.getD_some, hname, hlength]

/-- The instance names of a process tree are pairwise different if and only if every process that has
forked had its hook registered by then; and the name of a process spells the path to it. -/
theorem instance_names_tell_processes (hrun : Run (Step config) (.init config) actions s) :
    (s.instanceNames.Nodup ↔
      Run (Guarded (fun s action => s.forksHooked action = true) (Step config)) (.init config)
        actions s) ∧
    (s.instanceNames.Nodup →
      s.instanceNames = (lineages actions).map (nameOf config.agentInstanceName)) := by
  have hnodup : Run (Guarded (fun s action => s.forksHooked action = true) (Step config))
      (.init config) actions s → s.instanceNames.Nodup := by
    intro hhooked
    rw [instanceNames_of_hooked hhooked]
    exact (nodup_lineages actions).map (nameOf_injective config.agentInstanceName)
  constructor
  · exact ⟨hooked_of_nodup hrun, hnodup⟩
  · intro hdistinct
    exact instanceNames_of_hooked (hooked_of_nodup hrun hdistinct)

/-- The pre-forking master, its two workers and what one of them has forked. -/
theorem preforkRun_instance_names : ∃ s,
    Run (Step preforkConfig) (.init preforkConfig) preforkRun s ∧ s.instanceNames.Nodup ∧
    s.instanceNames =
      ["shop-1", "shop-1-child(1)", "shop-1-child(2)", "shop-1-child(1)-child(3)"] := by
  have hresult : ∃ s,
      Run (Guarded (fun s action => s.forksHooked action = true) (Step preforkConfig))
        (.init preforkConfig) preforkRun s ∧
      s.instanceNames =
        ["shop-1", "shop-1-child(1)", "shop-1-child(2)", "shop-1-child(1)-child(3)"] := by
    apply Run.exists_of_guarded_foldlM
    decide +kernel
  obtain ⟨s, hhooked, hnames⟩ := hresult
  have hrun : Run (Step preforkConfig) (.init preforkConfig) preforkRun s :=
    hhooked.mono fun _ _ _ h => h.2
  exact ⟨s, hrun, (instance_names_tell_processes hrun).1.mpr hhooked, hnames⟩

end Lifecycle

end SkyWalking
