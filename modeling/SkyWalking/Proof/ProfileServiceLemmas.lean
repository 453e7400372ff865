import Mathlib
import SkyWalking.Lib.Slot
import SkyWalking.Profile.Service

/-!
# The life of a profile task

Every accepted task waits for its timer, is about to be started or has a context, and only one of these.
The compare-and-set on the reference decides which stop event ends a context; whoever wins it stops the
context, removes its task from the list and reports it.
-/

namespace SkyWalking.ProfileTaskExecutionService

/-- What one step does, with the facts it was guarded by. -/
inductive Transition (s : State) : Action → State → Prop where
  | add (task : ProfileTask) : Transition s (.addProfileTask task) (s.addProfileTask task)
  | put (task : Nat) : task ∈ s.adding → Transition s (.putTask task) (s.putTask task)
  | start (task : Nat) :
      s.removal = none → task ∈ s.scheduled → s.taskExecutionContext = none →
      Transition s (.processProfileTask task)
        ((s.fired task).startContext task)
  | replace (task current : Nat) (context : Context) :
      s.removal = none → task ∈ s.scheduled → s.taskExecutionContext = some current →
      s.contexts[current]? = some context →
      Transition s (.processProfileTask task)
        ((s.fired task).stopContext current context (some task))
  | late (needStop : Nat) :
      s.taskExecutionContext ≠ some needStop →
      Transition s (.stopCurrentProfileTask needStop) s
  | stop (needStop : Nat) (context : Context) :
      s.removal = none → s.taskExecutionContext = some needStop →
      s.contexts[needStop]? = some context →
      Transition s (.stopCurrentProfileTask needStop) (s.stopContext needStop context none)
  | drained (removal : Removal) :
      s.removal = some removal → s.profileTaskList = [] →
      Transition s .removalStep { s with removal := some { removal with phase := .refilling } }
  | drop (removal : Removal) (rest : List Nat) :
      s.removal = some removal → removal.phase = .draining →
      s.profileTaskList = removal.task :: rest →
      Transition s .removalStep { s with profileTaskList := rest }
  | drain (removal : Removal) (item : Nat) (rest : List Nat) :
      s.removal = some removal → removal.phase = .draining → item ≠ removal.task →
      s.profileTaskList = item :: rest →
      Transition s .removalStep { s with
        profileTaskList := rest
        removal := some { removal with itemLeft := removal.itemLeft ++ [item] } }
  | refill (removal : Removal) (item : Nat) (rest : List Nat) :
      s.removal = some removal → removal.phase = .refilling → removal.itemLeft = item :: rest →
      Transition s .removalStep { s with
        profileTaskList := s.profileTaskList ++ [item]
        removal := some { removal with itemLeft := rest } }
  | finish (removal : Removal) :
      s.removal = some removal → removal.phase = .refilling → removal.itemLeft = [] →
      removal.starting = none →
      Transition s .removalStep (s.finishRemoval removal)
  | handOver (removal : Removal) (task : Nat) :
      s.removal = some removal → removal.phase = .refilling → removal.itemLeft = [] →
      removal.starting = some task →
      Transition s .removalStep ((s.finishRemoval removal).startContext task)

theorem transition_of_removalStep {s : State} {removal : Removal}
    (hremoval : s.removal = some removal) : Transition s .removalStep (s.removalStep removal) := by
  obtain ⟨task, itemLeft, phase, starting⟩ := removal
  unfold State.removalStep
  cases phase with
  | draining =>
      cases hlist : s.profileTaskList with
      | nil => simpa [hlist] using Transition.drained _ hremoval hlist
      | cons item rest =>
          by_cases hitem : item = task
          · subst hitem
            simpa [hremoval] using Transition.drop _ rest hremoval rfl hlist
          · simpa [hitem] using Transition.drain _ item rest hremoval rfl hitem hlist
  | refilling =>
      cases itemLeft with
      | cons item rest => exact Transition.refill _ item rest hremoval rfl rfl
      | nil =>
          cases starting with
          | none => exact Transition.finish _ hremoval rfl rfl rfl
          | some next => exact Transition.handOver _ next hremoval rfl rfl rfl

theorem transition_of_step {s s' : State} {action : Action} (hstep : Step s action s') :
    Transition s action s' := by
  unfold Step step at hstep
  cases action with
  | addProfileTask task =>
      obtain rfl := Option.some.inj hstep
      exact .add task
  | putTask task =>
      by_cases hadding : task ∈ s.adding
      · simp only [hadding, if_true, Option.some.injEq] at hstep
        subst hstep
        exact .put task hadding
      · simp [hadding] at hstep
  | processProfileTask task =>
      by_cases hguard : s.removal = none ∧ task ∈ s.scheduled
      · simp only [hguard, and_self, if_true] at hstep
        cases hcurrent : s.taskExecutionContext with
        | none =>
            simp only [hcurrent, Option.some.injEq] at hstep
            subst hstep
            exact .start task hguard.1 hguard.2 hcurrent
        | some current =>
            simp only [hcurrent] at hstep
            obtain ⟨context, hcontext, rfl⟩ := Option.map_eq_some_iff.mp hstep
            exact .replace task current context hguard.1 hguard.2 hcurrent hcontext
      · simp [hguard] at hstep
  | stopCurrentProfileTask needStop =>
      by_cases hremoval : s.removal = none
      · simp only [hremoval, if_true] at hstep
        obtain ⟨context, hcontext, hnext⟩ := Option.map_eq_some_iff.mp hstep
        by_cases hcurrent : s.taskExecutionContext = some needStop
        · rw [if_pos hcurrent] at hnext
          subst hnext
          exact .stop needStop context hremoval hcurrent hcontext
        · rw [if_neg hcurrent] at hnext
          subst hnext
          exact .late needStop hcurrent
      · simp [hremoval] at hstep
  | removalStep =>
      obtain ⟨removal, hremoval, rfl⟩ := Option.map_eq_some_iff.mp hstep
      exact transition_of_removalStep hremoval

/-- The task that the removal in progress takes out of the list. -/
def State.removing (s : State) : List Nat := (s.removal.map Removal.task).toList

/-- The task that the removal in progress makes room for. -/
def State.starting (s : State) : List Nat := (s.removal.bind Removal.starting).toList

/-- Where the accepted tasks are. -/
structure Placed (s : State) : Prop where
  distinct : (s.adding ++ s.accepted).Nodup
  known : ∀ task ∈ s.adding ++ s.accepted, task < s.tasks.length
  started : ∀ task, s.accepted.count task =
    s.scheduled.count task + s.starting.count task + (s.contexts.map Context.task).count task

/-- Which contexts are over. -/
structure Stopped (s : State) : Prop where
  current : ∀ index context, s.contexts[index]? = some context →
    (context.stopped = false ↔ s.taskExecutionContext = some index)
  removing : s.removal ≠ none → s.taskExecutionContext = none
  reported : ∀ task, s.stoppedTasks.count task = s.notified.count task + s.removing.count task

/-- What the list holds, between two removals and inside one. -/
structure Listed (s : State) : Prop where
  whole : s.removal = none → s.profileTaskList.Perm s.live
  parts : ∀ removal, s.removal = some removal →
    removal.task ∉ removal.itemLeft ∧
    (removal.phase = .refilling → removal.task ∉ s.profileTaskList) ∧
    ((s.profileTaskList ++ removal.itemLeft).filter fun task => decide (task ≠ removal.task)).Perm
      s.live

section Contexts

variable {contexts : List Context} {index : Nat} {context : Context}

theorem tasks_set_count (hcontext : contexts[index]? = some context) (stopped : Bool) (task : Nat) :
    ((contexts.set index { context with stopped := stopped }).map Context.task).count task =
      (contexts.map Context.task).count task := by
  apply List.Perm.count_eq
  exact ((Slot.set_perm_cons hcontext _).map Context.task).trans
    ((Slot.perm_cons hcontext).map Context.task).symm

theorem stoppedTasks_set_perm (hcontext : contexts[index]? = some context)
    (hrunning : context.stopped = false) :
    (((contexts.set index { context with stopped := true }).filter
        fun context => context.stopped).map Context.task).Perm
      (context.task :: (contexts.filter fun context => context.stopped).map Context.task) := by
  have hbefore := ((Slot.perm_cons hcontext).filter fun context => context.stopped).map Context.task
  rw [List.filter_cons_of_neg (by simp [hrunning])] at hbefore
  refine (((Slot.set_perm_cons hcontext { context with stopped := true }).filter
    fun context => context.stopped).map Context.task).trans ?_
  rw [List.filter_cons_of_pos (by rfl), List.map_cons]
  exact hbefore.symm.cons _

end Contexts

theorem stoppedTasks_subset (s : State) : s.stoppedTasks ⊆ s.contexts.map Context.task := by
  unfold State.stoppedTasks
  exact List.map_subset _ (List.filter_subset_self _)

theorem Placed.stopped_mem_accepted {s : State} (hplaced : Placed s) {task : Nat}
    (hstopped : task ∈ s.stoppedTasks) : task ∈ s.accepted := by
  apply List.count_pos_iff.mp
  have hcontext := List.count_pos_iff.mpr (stoppedTasks_subset s hstopped)
  have hstarted := hplaced.started task
  omega

theorem Placed.adding_not_mem {s : State} (hplaced : Placed s) {task : Nat}
    (hadding : task ∈ s.adding) : task ∉ s.accepted :=
  fun haccepted => (List.disjoint_of_nodup_append hplaced.distinct) hadding haccepted

theorem Placed.tasks_nodup {s : State} (hplaced : Placed s) : (s.contexts.map Context.task).Nodup := by
  rw [List.nodup_iff_count_le_one]
  intro task
  have honce := List.nodup_iff_count_le_one.mp hplaced.distinct.of_append_right task
  have hstarted := hplaced.started task
  omega

theorem Placed.init : Placed State.init := by
  refine ⟨List.nodup_nil, ?_, fun _ => rfl⟩
  intro task htask
  cases htask

theorem Stopped.init : Stopped State.init := by
  refine ⟨?_, fun _ => rfl, fun _ => rfl⟩
  intro index context hcontext
  simp [State.init] at hcontext

theorem Listed.init : Listed State.init := by
  refine ⟨fun _ => List.Perm.nil, ?_⟩
  intro removal hremoval
  cases hremoval

theorem erase_count {items : List Nat} {item : Nat} (hitem : item ∈ items) (other : Nat) :
    items.count other = (items.erase item).count other + [item].count other := by
  rw [(List.perm_cons_erase hitem).count_eq other, ← List.singleton_append, List.count_append]
  exact Nat.add_comm _ _

theorem Placed.transition {s s' : State} {action : Action} (hplaced : Placed s)
    (h : Transition s action s') : Placed s' := by
  have hstarted := hplaced.started
  cases h with
  | add task =>
      unfold State.addProfileTask
      have hlater : ∀ other ∈ s.adding ++ s.accepted, other < (s.tasks ++ [task]).length := by
        intro other hother
        rw [List.length_append]
        exact Nat.lt_add_right _ (hplaced.known other hother)
      by_cases hcheck : (checkProfileTask s.listed task).isNone = true
      · simp only [hcheck, if_true]
        have hnew : s.tasks.length ∉ s.adding ++ s.accepted :=
          fun hmem => Nat.lt_irrefl _ (hplaced.known _ hmem)
        have hshift : (s.adding ++ [s.tasks.length] ++ s.accepted).Perm
            (s.tasks.length :: (s.adding ++ s.accepted)) := by
          rw [List.append_assoc, List.singleton_append]
          exact List.perm_middle
        refine ⟨hshift.nodup_iff.mpr (List.nodup_cons.mpr ⟨hnew, hplaced.distinct⟩), ?_, hstarted⟩
        intro other hother
        obtain rfl | hother := List.mem_cons.mp (hshift.mem_iff.mp hother)
        · simp
        · exact hlater other hother
      · simp only [hcheck, Bool.false_eq_true, if_false]
        exact ⟨hplaced.distinct, hlater, hstarted⟩
  | put task hadding =>
      have hmove : (s.adding.erase task ++ (s.accepted ++ [task])).Perm (s.adding ++ s.accepted) := by
        calc
          (s.adding.erase task ++ (s.accepted ++ [task])).Perm
              (task :: s.adding.erase task ++ s.accepted) := by
            rw [← List.append_assoc]
            exact List.perm_append_singleton _ _
          List.Perm _ (s.adding ++ s.accepted) :=
            (List.perm_cons_erase hadding).symm.append_right _
      refine ⟨hmove.nodup_iff.mpr hplaced.distinct, ?_, ?_⟩
      · intro other hother
        exact hplaced.known other (hmove.mem_iff.mp hother)
      · intro other
        have hbefore := hstarted other
        change (s.accepted ++ [task]).count other = (s.scheduled ++ [task]).count other +
          s.starting.count other + (s.contexts.map Context.task).count other
        rw [List.count_append, List.count_append]
        omega
  | start task hremoval hscheduled hcurrent =>
      refine ⟨hplaced.distinct, hplaced.known, ?_⟩
      intro other
      have hbefore := hstarted other
      have herase := erase_count hscheduled other
      change s.accepted.count other = (s.scheduled.erase task).count other +
        s.starting.count other + ((s.contexts ++ [(⟨task, false⟩ : Context)]).map Context.task).count other
      rw [List.map_append, List.count_append]
      change _ = _ + (_ + [task].count other)
      omega
  | replace task current context hremoval hscheduled hcurrent hcontext =>
      refine ⟨hplaced.distinct, hplaced.known, ?_⟩
      intro other
      have hbefore := hstarted other
      have herase := erase_count hscheduled other
      have hset := tasks_set_count hcontext true other
      simp only [State.starting, hremoval, Option.bind_none, Option.toList_none,
        List.count_nil] at hbefore
      change s.accepted.count other = (s.scheduled.erase task).count other +
        [task].count other +
        ((s.contexts.set current { context with stopped := true }).map Context.task).count other
      omega
  | late needStop hcurrent => exact hplaced
  | stop needStop context hremoval hcurrent hcontext =>
      refine ⟨hplaced.distinct, hplaced.known, ?_⟩
      intro other
      have hbefore := hstarted other
      have hset := tasks_set_count hcontext true other
      simp only [State.starting, hremoval, Option.bind_none, Option.toList_none] at hbefore
      change s.accepted.count other = s.scheduled.count other + List.count other [] +
        ((s.contexts.set needStop { context with stopped := true }).map Context.task).count other
      omega
  | drained removal hremoval | drain removal _ _ hremoval | refill removal _ _ hremoval =>
      refine ⟨hplaced.distinct, hplaced.known, ?_⟩
      intro other
      have hbefore := hstarted other
      rw [State.starting, hremoval] at hbefore
      exact hbefore
  | drop => exact ⟨hplaced.distinct, hplaced.known, hstarted⟩
  | finish removal hremoval hphase hleft hstarting =>
      refine ⟨hplaced.distinct, hplaced.known, ?_⟩
      intro other
      have hbefore := hstarted other
      simp only [State.starting, hremoval, Option.bind_some, hstarting] at hbefore
      exact hbefore
  | handOver removal task hremoval hphase hleft hstarting =>
      refine ⟨hplaced.distinct, hplaced.known, ?_⟩
      intro other
      have hbefore := hstarted other
      simp only [State.starting, hremoval, Option.bind_some, hstarting, Option.toList_some] at hbefore
      change s.accepted.count other = s.scheduled.count other + List.count other [] +
        ((s.contexts ++ [(⟨task, false⟩ : Context)]).map Context.task).count other
      rw [List.map_append, List.count_append, List.count_nil]
      change _ = _ + (_ + [task].count other)
      omega

theorem current_startContext {s : State} (hstopped : Stopped s)
    (hcurrent : s.taskExecutionContext = none) (task : Nat) :
    ∀ index context, (s.startContext task).contexts[index]? = some context →
      (context.stopped = false ↔ (s.startContext task).taskExecutionContext = some index) := by
  intro index context hcontext
  change (s.contexts ++ [(⟨task, false⟩ : Context)])[index]? = some context at hcontext
  change _ ↔ some s.contexts.length = some index
  by_cases hold : index < s.contexts.length
  · rw [List.getElem?_append_left hold] at hcontext
    have hbefore := hstopped.current index context hcontext
    rw [hcurrent] at hbefore
    simp only [hbefore, reduceCtorEq, Option.some.injEq, false_iff]
    omega
  · rw [List.getElem?_append_right (by omega)] at hcontext
    obtain ⟨hindex, hvalue⟩ := List.getElem?_eq_some_iff.mp hcontext
    rw [List.length_singleton] at hindex
    have hlast : index = s.contexts.length := by omega
    subst hlast
    simp only [Nat.sub_self, List.getElem_singleton] at hvalue
    subst hvalue
    simp

theorem current_stopContext {s : State} (hstopped : Stopped s) {needStop : Nat} {context : Context}
    (hcurrent : s.taskExecutionContext = some needStop) (starting : Option Nat) :
    ∀ index other, (s.stopContext needStop context starting).contexts[index]? = some other →
      (other.stopped = false ↔
        (s.stopContext needStop context starting).taskExecutionContext = some index) := by
  intro index other hother
  change (s.contexts.set needStop { context with stopped := true })[index]? = some other at hother
  change _ ↔ none = some index
  by_cases hsame : needStop = index
  · subst hsame
    obtain ⟨hlt, hvalue⟩ := List.getElem?_eq_some_iff.mp hother
    rw [List.getElem_set_self] at hvalue
    simp [← hvalue]
  · rw [List.getElem?_set_ne hsame] at hother
    have hbefore := hstopped.current index other hother
    rw [hcurrent] at hbefore
    simp [hbefore, hsame]

theorem reported_stopContext {s : State} (hstopped : Stopped s) (hremoval : s.removal = none)
    {needStop : Nat} {context : Context} (hcurrent : s.taskExecutionContext = some needStop)
    (hcontext : s.contexts[needStop]? = some context) (starting : Option Nat) (task : Nat) :
    (s.stopContext needStop context starting).stoppedTasks.count task =
      s.notified.count task + [context.task].count task := by
  have hrunning : context.stopped = false := (hstopped.current needStop context hcontext).mpr hcurrent
  have hbefore := hstopped.reported task
  rw [State.removing, hremoval, Option.map_none, Option.toList_none, List.count_nil] at hbefore
  have hset := (stoppedTasks_set_perm hcontext hrunning).count_eq task
  rw [← List.singleton_append, List.count_append] at hset
  change List.count task (((s.contexts.set needStop { context with stopped := true }).filter
    fun context => context.stopped).map Context.task) = _
  rw [hset]
  change _ + s.stoppedTasks.count task = _
  omega

theorem stoppedTasks_startContext (s : State) (task : Nat) :
    (s.startContext task).stoppedTasks = s.stoppedTasks := by
  simp [State.stoppedTasks, State.startContext, List.filter_append]

theorem Stopped.startContext {s : State} (hstopped : Stopped s) (hremoval : s.removal = none)
    (hcurrent : s.taskExecutionContext = none) (task : Nat) : Stopped (s.startContext task) := by
  refine ⟨current_startContext hstopped hcurrent task, ?_, ?_⟩
  · intro hbusy
    exact absurd hremoval hbusy
  · rw [stoppedTasks_startContext]
    exact hstopped.reported

theorem Stopped.stopContext {s : State} (hstopped : Stopped s) (hremoval : s.removal = none)
    {needStop : Nat} {context : Context} (hcurrent : s.taskExecutionContext = some needStop)
    (hcontext : s.contexts[needStop]? = some context) (starting : Option Nat) :
    Stopped (s.stopContext needStop context starting) :=
  ⟨current_stopContext hstopped hcurrent starting, fun _ => rfl,
    reported_stopContext hstopped hremoval hcurrent hcontext starting⟩

theorem Stopped.fired {s : State} (hstopped : Stopped s) (task : Nat) : Stopped (s.fired task) :=
  ⟨hstopped.current, hstopped.removing, hstopped.reported⟩

theorem Stopped.finishRemoval {s : State} (hstopped : Stopped s) {removal : Removal}
    (hremoval : s.removal = some removal) : Stopped (s.finishRemoval removal) := by
  refine ⟨hstopped.current, fun hbusy => absurd rfl hbusy, ?_⟩
  intro task
  have hbefore := hstopped.reported task
  simp only [State.removing, hremoval, Option.map_some, Option.toList_some] at hbefore
  change s.stoppedTasks.count task = (s.notified ++ [removal.task]).count task + List.count task []
  rw [List.count_append, List.count_nil]
  omega

theorem Stopped.transition {s s' : State} {action : Action} (hstopped : Stopped s)
    (h : Transition s action s') : Stopped s' := by
  cases h with
  | add | put | drop => exact ⟨hstopped.current, hstopped.removing, hstopped.reported⟩
  | start task hremoval hscheduled hcurrent =>
      exact (hstopped.fired task).startContext hremoval hcurrent task
  | replace task current context hremoval hscheduled hcurrent hcontext =>
      exact (hstopped.fired task).stopContext hremoval hcurrent hcontext (some task)
  | late => exact hstopped
  | stop needStop context hremoval hcurrent hcontext =>
      exact hstopped.stopContext hremoval hcurrent hcontext none
  | drained removal hremoval | drain removal _ _ hremoval | refill removal _ _ hremoval =>
      have hcurrent := hstopped.removing (by simp [hremoval])
      refine ⟨hstopped.current, fun _ => hcurrent, ?_⟩
      intro task
      have hbefore := hstopped.reported task
      rw [State.removing, hremoval] at hbefore
      exact hbefore
  | finish removal hremoval => exact hstopped.finishRemoval hremoval
  | handOver removal task hremoval =>
      have hcurrent := hstopped.removing (by simp [hremoval])
      exact (hstopped.finishRemoval hremoval).startContext rfl hcurrent task

/-! The list. A put adds a task that was never stopped; a stop takes the task of the context out of the
live ones; the removal moves the others around. -/

theorem live_putTask {s : State} (hplaced : Placed s) {task : Nat} (hadding : task ∈ s.adding) :
    (s.putTask task).live = s.live ++ [task] := by
  have hnew : task ∉ s.stoppedTasks :=
    fun hmem => hplaced.adding_not_mem hadding (hplaced.stopped_mem_accepted hmem)
  change (s.accepted ++ [task]).filter (fun task => decide (task ∉ s.stoppedTasks)) = _
  rw [List.filter_append, List.filter_cons_of_pos (by simpa using hnew)]
  rfl

theorem live_stopContext {s : State} (hstopped : Stopped s) {needStop : Nat} {context : Context}
    (hcurrent : s.taskExecutionContext = some needStop)
    (hcontext : s.contexts[needStop]? = some context) (starting : Option Nat) :
    (s.stopContext needStop context starting).live =
      s.live.filter fun task => decide (task ≠ context.task) := by
  have hrunning : context.stopped = false := (hstopped.current needStop context hcontext).mpr hcurrent
  unfold State.live
  rw [List.filter_filter]
  apply List.filter_congr
  intro task _
  have hset := (stoppedTasks_set_perm hcontext hrunning).mem_iff (a := task)
  rw [List.mem_cons] at hset
  change decide (task ∉ ((s.contexts.set needStop { context with stopped := true }).filter
    fun context => context.stopped).map Context.task) = _
  simp only [hset, not_or, Bool.decide_and]
  rfl

theorem live_startContext (s : State) (task : Nat) : (s.startContext task).live = s.live := by
  unfold State.live
  rw [stoppedTasks_startContext]
  rfl

theorem Listed.startContext {s : State} (hlisted : Listed s) (hremoval : s.removal = none)
    (task : Nat) : Listed (s.startContext task) := by
  refine ⟨?_, ?_⟩
  · intro _
    rw [live_startContext]
    exact hlisted.whole hremoval
  · intro removal hbusy
    exact absurd (hbusy.symm.trans hremoval) (by simp)

theorem Listed.stopContext {s : State} (hlisted : Listed s) (hstopped : Stopped s)
    (hremoval : s.removal = none) {needStop : Nat} {context : Context}
    (hcurrent : s.taskExecutionContext = some needStop)
    (hcontext : s.contexts[needStop]? = some context) (starting : Option Nat) :
    Listed (s.stopContext needStop context starting) := by
  refine ⟨fun hidle => absurd hidle (by simp [State.stopContext]), ?_⟩
  intro removal hbusy
  obtain rfl := Option.some.inj hbusy
  refine ⟨List.not_mem_nil, fun hphase => (by cases hphase), ?_⟩
  rw [live_stopContext hstopped hcurrent hcontext]
  rw [List.append_nil]
  exact (hlisted.whole hremoval).filter _

theorem Listed.fired {s : State} (hlisted : Listed s) (task : Nat) : Listed (s.fired task) :=
  ⟨hlisted.whole, hlisted.parts⟩

theorem Listed.finishRemoval {s : State} (hlisted : Listed s) {removal : Removal}
    (hremoval : s.removal = some removal) (hphase : removal.phase = .refilling)
    (hleft : removal.itemLeft = []) : Listed (s.finishRemoval removal) := by
  obtain ⟨-, hgone, hparts⟩ := hlisted.parts removal hremoval
  refine ⟨fun _ => ?_, fun other hbusy => (by cases hbusy)⟩
  rw [hleft, List.append_nil, List.filter_eq_self.mpr] at hparts
  · exact hparts
  · intro task htask
    have hne : task ≠ removal.task := fun heq => hgone hphase (heq ▸ htask)
    simpa using hne

theorem Listed.putTask {s : State} (hlisted : Listed s) (hplaced : Placed s) (hstopped : Stopped s)
    {task : Nat} (hadding : task ∈ s.adding) : Listed (s.putTask task) := by
  refine ⟨?_, ?_⟩
  · intro hidle
    rw [live_putTask hplaced hadding]
    exact (hlisted.whole hidle).append_right [task]
  · intro removal hbusy
    change s.removal = some removal at hbusy
    obtain ⟨hleft, hgone, hparts⟩ := hlisted.parts removal hbusy
    -- the task of the removal has been accepted before, so it is not the one that is put
    have hremoving : removal.task ∈ s.stoppedTasks := by
      apply List.count_pos_iff.mp
      have hbefore := hstopped.reported removal.task
      rw [State.removing, hbusy, Option.map_some, Option.toList_some,
        List.count_singleton_self] at hbefore
      omega
    have hne : task ≠ removal.task := by
      intro heq
      apply hplaced.adding_not_mem hadding
      rw [heq]
      exact hplaced.stopped_mem_accepted hremoving
    refine ⟨hleft, ?_, ?_⟩
    · intro hphase hmem
      obtain hmem | hmem := List.mem_append.mp hmem
      · exact hgone hphase hmem
      · exact hne (List.mem_singleton.mp hmem).symm
    · rw [live_putTask hplaced hadding]
      have hmove : (s.profileTaskList ++ [task] ++ removal.itemLeft).Perm
          (s.profileTaskList ++ removal.itemLeft ++ [task]) := by
        rw [List.append_assoc, List.append_assoc]
        exact List.perm_append_comm.append_left _
      refine (hmove.filter _).trans ?_
      rw [List.filter_append, List.filter_cons_of_pos (by simpa using hne)]
      exact hparts.append_right [task]

theorem Listed.transition {s s' : State} {action : Action} (hlisted : Listed s) (hplaced : Placed s)
    (hstopped : Stopped s) (h : Transition s action s') : Listed s' := by
  cases h with
  | add => exact ⟨hlisted.whole, hlisted.parts⟩
  | put task hadding => exact hlisted.putTask hplaced hstopped hadding
  | start task hremoval => exact (hlisted.fired task).startContext hremoval task
  | replace task current context hremoval hscheduled hcurrent hcontext =>
      exact (hlisted.fired task).stopContext (hstopped.fired task) hremoval hcurrent hcontext _
  | late => exact hlisted
  | stop needStop context hremoval hcurrent hcontext =>
      exact hlisted.stopContext hstopped hremoval hcurrent hcontext none
  | drained removal hremoval hempty =>
      obtain ⟨hleft, hgone, hparts⟩ := hlisted.parts removal hremoval
      refine ⟨fun hidle => (by cases hidle), ?_⟩
      intro other hbusy
      obtain rfl := Option.some.inj hbusy
      refine ⟨hleft, ?_, hparts⟩
      intro _ hmem
      change removal.task ∈ s.profileTaskList at hmem
      rw [hempty] at hmem
      exact List.not_mem_nil hmem
  | drop removal rest hremoval hphase hlist =>
      obtain ⟨hleft, hgone, hparts⟩ := hlisted.parts removal hremoval
      refine ⟨fun hidle => absurd (hremoval.symm.trans hidle) (by simp), ?_⟩
      intro other hbusy
      obtain rfl := Option.some.inj (hremoval.symm.trans hbusy)
      refine ⟨hleft, fun hrefill => absurd (hphase.symm.trans hrefill) (by simp), ?_⟩
      rw [hlist, List.cons_append, List.filter_cons_of_neg (by simp)] at hparts
      exact hparts
  | drain removal item rest hremoval hphase hitem hlist =>
      obtain ⟨hleft, hgone, hparts⟩ := hlisted.parts removal hremoval
      refine ⟨fun hidle => (by cases hidle), ?_⟩
      intro other hbusy
      obtain rfl := Option.some.inj hbusy
      refine ⟨?_, fun hrefill => absurd (hphase.symm.trans hrefill) (by simp), ?_⟩
      · intro hmem
        obtain hmem | hmem := List.mem_append.mp hmem
        · exact hleft hmem
        · exact hitem (List.mem_singleton.mp hmem).symm
      · have hmove : (rest ++ (removal.itemLeft ++ [item])).Perm
            (s.profileTaskList ++ removal.itemLeft) := by
          rw [hlist, ← List.append_assoc]
          exact List.perm_append_singleton _ _
        exact (hmove.filter _).trans hparts
  | refill removal item rest hremoval hphase hitems =>
      obtain ⟨hleft, hgone, hparts⟩ := hlisted.parts removal hremoval
      rw [hitems] at hleft hparts
      refine ⟨fun hidle => (by cases hidle), ?_⟩
      intro other hbusy
      obtain rfl := Option.some.inj hbusy
      refine ⟨fun hmem => hleft (List.mem_cons_of_mem _ hmem), ?_, ?_⟩
      · intro _ hmem
        obtain hmem | hmem := List.mem_append.mp hmem
        · exact hgone hphase hmem
        · exact hleft (List.mem_cons.mpr (.inl (List.mem_singleton.mp hmem)))
      · change ((s.profileTaskList ++ [item] ++ rest).filter _).Perm s.live
        rw [List.append_assoc, List.singleton_append]
        exact hparts
  | finish removal hremoval hphase hleft => exact hlisted.finishRemoval hremoval hphase hleft
  | handOver removal task hremoval hphase hleft =>
      exact (hlisted.finishRemoval hremoval hphase hleft).startContext rfl task

theorem invariants_of_run {actions : List Action} {s : State} (hrun : Run Step State.init actions s) :
    Placed s ∧ Stopped s ∧ Listed s := by
  apply hrun.invariant (I := fun s => Placed s ∧ Stopped s ∧ Listed s)
  · rintro state action next ⟨hplaced, hstopped, hlisted⟩ hstep
    have htransition := transition_of_step hstep
    exact ⟨hplaced.transition htransition, hstopped.transition htransition,
      hlisted.transition hplaced hstopped htransition⟩
  · exact ⟨Placed.init, Stopped.init, Listed.init⟩

/-! A removal ends when nothing is put any more: it goes through the list once and through what is left
once. -/

theorem refilling_ends (items : List Nat) : ∀ (s : State) (removal : Removal),
    s.removal = some removal → removal.phase = .refilling → removal.itemLeft = items →
    ∃ rounds s', Run Step s (List.replicate rounds .removalStep) s' ∧ s'.removal = none := by
  induction items with
  | nil =>
      intro s removal hremoval hphase hleft
      refine ⟨1, s.removalStep removal, Run.single (by simp [Step, step, hremoval]), ?_⟩
      cases hstarting : removal.starting with
      | none => simp [State.removalStep, hphase, hleft, hstarting, State.finishRemoval]
      | some task =>
          simp [State.removalStep, hphase, hleft, hstarting, State.finishRemoval, State.startContext]
  | cons item rest ih =>
      intro s removal hremoval hphase hleft
      obtain ⟨rounds, s', hrun, hidle⟩ := ih (s.removalStep removal) { removal with itemLeft := rest }
        (by simp [State.removalStep, hphase, hleft]) hphase rfl
      refine ⟨rounds + 1, s', ?_, hidle⟩
      rw [List.replicate_succ]
      exact (Run.single (by simp [Step, step, hremoval])).append hrun

theorem draining_ends (items : List Nat) : ∀ (s : State) (removal : Removal),
    s.removal = some removal → removal.phase = .draining → s.profileTaskList = items →
    ∃ rounds s', Run Step s (List.replicate rounds .removalStep) s' ∧ s'.removal = none := by
  induction items with
  | nil =>
      intro s removal hremoval hphase hlist
      obtain ⟨rounds, s', hrun, hidle⟩ := refilling_ends removal.itemLeft (s.removalStep removal)
        { removal with phase := .refilling } (by simp [State.removalStep, hphase, hlist]) rfl rfl
      refine ⟨rounds + 1, s', ?_, hidle⟩
      rw [List.replicate_succ]
      exact (Run.single (by simp [Step, step, hremoval])).append hrun
  | cons item rest ih =>
      intro s removal hremoval hphase hlist
      obtain ⟨rounds, s', hrun, hidle⟩ := ih (s.removalStep removal)
        { removal with
          itemLeft := if item = removal.task then removal.itemLeft else removal.itemLeft ++ [item] }
        (by simp [State.removalStep, hphase, hlist]) hphase
        (by simp [State.removalStep, hphase, hlist])
      refine ⟨rounds + 1, s', ?_, hidle⟩
      rw [List.replicate_succ]
      exact (Run.single (by simp [Step, step, hremoval])).append hrun

theorem removal_ends (s : State) :
    ∃ rounds s', Run Step s (List.replicate rounds .removalStep) s' ∧ s'.removal = none := by
  cases hremoval : s.removal with
  | none => exact ⟨0, s, Run.nil s, hremoval⟩
  | some removal =>
      cases hphase : removal.phase with
      | draining => exact draining_ends _ s removal hremoval hphase rfl
      | refilling => exact refilling_ends _ s removal hremoval hphase rfl

/-- A task is reported at most once, and it has been reported if and only if its context is stopped and
its removal is over. -/
theorem notified_count {s : State} (hplaced : Placed s) (hstopped : Stopped s) {index : Nat}
    {context : Context} (hcontext : s.contexts[index]? = some context) :
    s.notified.count context.task =
      if context.stopped = true ∧ context.task ∉ s.removing then 1 else 0 := by
  have hmem := List.mem_of_getElem? hcontext
  have hreported := hstopped.reported context.task
  cases hover : context.stopped with
  | false =>
      have hnone : context.task ∉ s.stoppedTasks := by
        intro hin
        obtain ⟨other, hother, htask⟩ := List.mem_map.mp hin
        obtain ⟨hother, hstop⟩ := List.mem_filter.mp hother
        obtain rfl := List.inj_on_of_nodup_map hplaced.tasks_nodup hother hmem htask
        exact absurd (hover.symm.trans hstop) (by simp)
      rw [List.count_eq_zero_of_not_mem hnone] at hreported
      simp only [Bool.false_eq_true, false_and, if_false]
      omega
  | true =>
      have hin : context.task ∈ s.stoppedTasks :=
        List.mem_map_of_mem (List.mem_filter.mpr ⟨hmem, hover⟩)
      have hsublist : s.stoppedTasks.Sublist (s.contexts.map Context.task) :=
        List.filter_sublist.map Context.task
      have honce := List.nodup_iff_count_le_one.mp (hsublist.nodup hplaced.tasks_nodup) context.task
      have hsome := List.count_pos_iff.mpr hin
      by_cases hremoving : context.task ∈ s.removing
      · have hone := List.count_pos_iff.mpr hremoving
        simp only [hremoving, not_true_eq_false, and_false, if_false]
        omega
      · rw [List.count_eq_zero_of_not_mem hremoving] at hreported
        simp only [hremoving, not_false_eq_true, and_self, if_true]
        omega

theorem live_nodup {s : State} (hplaced : Placed s) : s.live.Nodup :=
  hplaced.distinct.of_append_right.filter _

/-- Only the current context is running; a context is reported once, when it has been stopped and its
removal is over, and every removal ends; a stop event that refers to another context than the current one
changes nothing; between removals the list holds the accepted tasks that have not been stopped. -/
theorem profile_task_lifecycle {actions : List Action} {s : State}
    (hrun : Run Step State.init actions s) :
    (∀ index context, s.contexts[index]? = some context →
      (context.stopped = false ↔ s.taskExecutionContext = some index)) ∧
    (s.contexts.map Context.task).Nodup ∧
    (∀ (index : Nat) (context : Context), s.contexts[index]? = some context →
      s.notified.count context.task =
        if context.stopped = true ∧ context.task ∉ s.removing then 1 else 0) ∧
    (∃ rounds s', Run Step s (List.replicate rounds .removalStep) s' ∧ s'.removal = none) ∧
    (∀ needStop s', s.taskExecutionContext ≠ some needStop →
      Step s (.stopCurrentProfileTask needStop) s' → s' = s) ∧
    (s.removal = none → s.profileTaskList.Perm s.live ∧ s.profileTaskList.Nodup) := by
  obtain ⟨hplaced, hstopped, hlisted⟩ := invariants_of_run hrun
  refine ⟨hstopped.current, hplaced.tasks_nodup,
    fun index context hcontext => notified_count hplaced hstopped hcontext, removal_ends s, ?_, ?_⟩
  · intro needStop s' hother hstep
    cases transition_of_step hstep with
    | late => rfl
    | stop _ _ _ hcurrent => exact absurd hcurrent hother
  · intro hidle
    have hperm := hlisted.whole hidle
    exact ⟨hperm, hperm.nodup_iff.mpr (live_nodup hplaced)⟩

def profiledEndpoint (startTime : Int) : ProfileTask :=
  { taskId := "1"
    firstSpanOpName := "/users"
    duration := 1
    minDurationThreshold := 0
    threadDumpPeriod := 10
    maxSamplingCount := 5
    startTime := startTime
    createTime := startTime }

/-- The second task replaces the first; a third is put while the list is drained, and then the timer of
the first context fires. -/
def replacedTask : List Action :=
  [.addProfileTask (profiledEndpoint 0), .putTask 0, .processProfileTask 0,
    .addProfileTask (profiledEndpoint 100000), .putTask 1, .processProfileTask 1, .removalStep,
    .addProfileTask (profiledEndpoint 200000), .putTask 2, .removalStep, .removalStep, .removalStep,
    .removalStep, .removalStep, .removalStep, .stopCurrentProfileTask 0]

theorem replacedTask_lifecycle : ∃ s, Run Step State.init replacedTask s ∧
    s.taskExecutionContext = some 1 ∧ s.notified = [0] ∧ s.profileTaskList = [1, 2] ∧
    s.profileTaskList.Perm s.live ∧ s.profileTaskList.Nodup := by
  have hresult : ∃ s, Run Step State.init replacedTask s ∧ s.taskExecutionContext = some 1 ∧
      s.notified = [0] ∧ s.profileTaskList = [1, 2] ∧ s.removal = none := by
    apply Run.exists_of_foldlM
    decide +kernel
  obtain ⟨s, hreached, hcurrent, hnotified, hlist, hidle⟩ := hresult
  obtain ⟨-, -, -, -, -, hwhole⟩ := profile_task_lifecycle hreached
  exact ⟨s, hreached, hcurrent, hnotified, hlist, hwhole hidle⟩

end SkyWalking.ProfileTaskExecutionService
