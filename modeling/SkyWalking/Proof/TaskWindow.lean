import Mathlib.Tactic.Ring
import SkyWalking.Profile.Service

/-!
# The time window of a new profile task

The test compares the end of the new task with its own start, where the start of the listed task is
meant. So whatever ends before a listed task ends is rejected.
-/

namespace SkyWalking.ProfileTaskExecutionService

open ProfileConstants

variable {taskList : List ProfileTask} {task : ProfileTask}

/-- With fields in range only the task list decides. -/
theorem checkProfileTask_of_fieldsOk (h : FieldsOk task) :
    (checkProfileTask taskList task).isSome ↔
      ∃ other ∈ taskList, task.startTime ≤ calProfileTaskFinishTime task ∧
        calProfileTaskFinishTime task ≤ calProfileTaskFinishTime other := by
  rw [checkProfileTask, if_neg h.endpoint, if_neg (not_lt.mpr h.durationMin),
    if_neg (not_lt.mpr h.durationMax), if_neg (not_lt.mpr h.threshold),
    if_neg (not_lt.mpr h.dumpPeriod), if_neg (not_le.mpr h.sampling),
    if_neg (not_le.mpr h.samplingMax), Option.isSome_map, List.find?_isSome]
  simp only [decide_eq_true_eq]

theorem start_le_finish (h : FieldsOk task) : task.startTime ≤ calProfileTaskFinishTime task := by
  have hduration := h.durationMin
  simp only [calProfileTaskFinishTime, minuteToMillis, taskDurationMinMinute] at hduration ⊢
  omega

theorem rejected_iff (h : FieldsOk task) : (checkProfileTask taskList task).isSome ↔
    ∃ other ∈ taskList, calProfileTaskFinishTime task ≤ calProfileTaskFinishTime other := by
  rw [checkProfileTask_of_fieldsOk h]
  constructor
  · rintro ⟨other, hother, -, hle⟩
    exact ⟨other, hother, hle⟩
  · rintro ⟨other, hother, hle⟩
    exact ⟨other, hother, start_le_finish h, hle⟩

/-- The window is checked as it should be unless the new task is over before a listed one starts and
ends during no other. -/
theorem window_checked_iff (taskList : List ProfileTask) (task : ProfileTask) (h : FieldsOk task) :
    WindowChecked taskList task ↔
      ((∃ other ∈ taskList, EndsBefore task other) → ∃ other ∈ taskList, EndsDuring task other) := by
  constructor
  · rintro hchecked ⟨other, hother, -, hle⟩
    exact hchecked.rejected.mp ((rejected_iff h).mpr ⟨other, hother, hle⟩)
  · intro hwindow
    have hrejected : (checkProfileTask taskList task).isSome ↔
        ∃ other ∈ taskList, EndsDuring task other := by
      rw [rejected_iff h]
      constructor
      · rintro ⟨other, hother, hle⟩
        by_cases hstart : other.startTime ≤ calProfileTaskFinishTime task
        · exact ⟨other, hother, hstart, hle⟩
        · exact hwindow ⟨other, hother, not_le.mp hstart, hle⟩
      · rintro ⟨other, hother, -, hle⟩
        exact ⟨other, hother, hle⟩
    refine ⟨hrejected, ?_⟩
    intro hbefore
    rw [← Option.not_isSome_iff_eq_none, hrejected]
    rintro ⟨other, hother, hstart, -⟩
    exact absurd (hbefore other hother) (not_lt.mpr hstart)

/-- A minute's profiling of `/users` from the given time on. -/
def minuteFrom (startTime : Int) : ProfileTask :=
  { taskId := "1"
    firstSpanOpName := "/users"
    duration := 1
    minDurationThreshold := 0
    threadDumpPeriod := 10
    maxSamplingCount := 5
    startTime := startTime
    createTime := 0 }

theorem minuteFrom_fieldsOk (startTime : Int) : FieldsOk (minuteFrom startTime) := by
  constructor <;> simp [minuteFrom, taskDurationMinMinute, taskDurationMaxMinute,
    taskDumpPeriodMinMillis, taskMaxSamplingCount]

theorem overlapping_window_checked :
    WindowChecked [minuteFrom 30000] (minuteFrom 0) ↔
      ((∃ other ∈ [minuteFrom 30000], EndsBefore (minuteFrom 0) other) →
        ∃ other ∈ [minuteFrom 30000], EndsDuring (minuteFrom 0) other) :=
  window_checked_iff _ _ (minuteFrom_fieldsOk 0)

/-- The new task is over an hour before the listed one starts. -/
theorem earlier_task_rejected : FieldsOk (minuteFrom 0) ∧
    (∀ other ∈ [minuteFrom 3660000], calProfileTaskFinishTime (minuteFrom 0) < other.startTime) ∧
    (checkProfileTask [minuteFrom 3660000] (minuteFrom 0)).isSome ∧
    ¬ WindowChecked [minuteFrom 3660000] (minuteFrom 0) := by
  have hbefore : ∀ other ∈ [minuteFrom 3660000],
      calProfileTaskFinishTime (minuteFrom 0) < other.startTime := by
    decide
  have hrejected : (checkProfileTask [minuteFrom 3660000] (minuteFrom 0)).isSome := by
    decide
  refine ⟨minuteFrom_fieldsOk 0, hbefore, hrejected, fun h => ?_⟩
  rw [h.accepted hbefore] at hrejected
  cases hrejected

end SkyWalking.ProfileTaskExecutionService
