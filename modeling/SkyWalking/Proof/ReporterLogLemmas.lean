import Mathlib.Data.Rat.Floor
import SkyWalking.Utils.ReporterLog

/-!
# What the lines about dropped items add up to

A call is suppressed or prints, and either way only touches its own kind. The invariant of one kind ties the three
dictionaries to the lines that were printed.
-/

namespace SkyWalking

namespace DropLog

variable {log log' : DropLog} {call : DropCall} {kind : String} {drops : Int}

/-- A call that is counted and not printed. -/
def suppressed (log : DropLog) (call : DropCall) : DropLog :=
  { log with
    dropTotals := Function.update log.dropTotals call.kind
      (some (log.total call.kind + call.count)) }

def nextLine (log : DropLog) (call : DropCall) : DropLine :=
  ⟨call.kind, log.total call.kind + call.count - log.logged call.kind,
    log.total call.kind + call.count, call.now, call.force⟩

def printed (log : DropLog) (call : DropCall) : DropLog :=
  { lastDropLogAt := Function.update log.lastDropLogAt call.kind (some call.now)
    dropTotals := (log.suppressed call).dropTotals
    dropLoggedTotals := Function.update log.dropLoggedTotals call.kind
      (some (log.total call.kind + call.count))
    lines := log.lines ++ [log.nextLine call] }

/-- Everything that a call can do. -/
theorem logDroppedThrottled_cases (log : DropLog) (call : DropCall) :
    call.count ≤ 0 ∧ log.logDroppedThrottled call = log ∨
    0 < call.count ∧ log.logDroppedThrottled call = log.suppressed call ∨
    0 < call.count ∧
      (call.force = false → 30 ≤ call.now - (log.lastDropLogAt call.kind).getD 0) ∧
      log.logDroppedThrottled call = log.printed call := by
  rw [logDroppedThrottled]
  by_cases hcount : call.count ≤ 0
  · exact .inl ⟨hcount, if_pos hcount⟩
  · rw [if_neg hcount]
    simp only [Bool.and_eq_true, decide_eq_true_eq, Bool.not_eq_true']
    split
    · exact .inr (.inl ⟨Int.not_le.mp hcount, rfl⟩)
    · next hthrottle =>
      refine .inr (.inr ⟨Int.not_le.mp hcount, fun hforce => ?_, rfl⟩)
      exact not_lt.mp fun hlt => hthrottle ⟨hforce, hlt⟩

theorem linesOf_printed (log : DropLog) (call : DropCall) (kind : String) :
    (log.printed call).linesOf kind =
      log.linesOf kind ++ if call.kind = kind then [log.nextLine call] else [] := by
  rw [linesOf, printed, List.filter_append, linesOf]
  by_cases hkind : call.kind = kind <;> simp [nextLine, hkind]

/-- A call leaves the other kinds alone. -/
theorem view_of_ne (hkind : call.kind ≠ kind) :
    (log.logDroppedThrottled call).view kind = log.view kind := by
  have hne : kind ≠ call.kind := Ne.symm hkind
  obtain ⟨-, hnext⟩ | ⟨-, hnext⟩ | ⟨-, -, hnext⟩ := logDroppedThrottled_cases log call
  · rw [hnext]
  · rw [hnext]
    simp [view, suppressed, linesOf, hne]
  · rw [hnext, view, linesOf_printed, if_neg hkind, List.append_nil]
    simp [view, printed, suppressed, hne]

/-- What a call does to its kind depends on that kind only. -/
theorem view_congr (hview : log.view kind = log'.view kind) (hkind : call.kind = kind) :
    (log.logDroppedThrottled call).view kind = (log'.logDroppedThrottled call).view kind := by
  subst hkind
  simp only [view, Prod.mk.injEq] at hview
  obtain ⟨hlast, htotal, hlogged, hlines⟩ := hview
  rw [linesOf, linesOf] at hlines
  simp only [logDroppedThrottled, total, logged, hlast, htotal, hlogged]
  split
  · simp [view, linesOf, hlast, htotal, hlogged, hlines]
  · split
    · simp [view, linesOf, hlast, hlogged, hlines]
    · simp [view, linesOf, hlines]

/-- The dictionaries, the lines and the number of dropped items of a kind. -/
structure Tallied (log : DropLog) (kind : String) (drops : Int) : Prop where
  total : log.total kind = drops
  logged : log.logged kind = ((log.linesOf kind).getLast?.map (·.total)).getD 0
  last : log.lastDropLogAt kind = (log.linesOf kind).getLast?.map (·.now)
  increments : ((log.linesOf kind).map (·.delta)).sum = log.logged kind
  spaced : (log.linesOf kind).IsChain fun earlier later =>
    later.force = false → 30 ≤ later.now - earlier.now

theorem tallied_empty (kind : String) : Tallied empty kind 0 where
  total := rfl
  logged := rfl
  last := rfl
  increments := rfl
  spaced := .nil

theorem Tallied.of_view (h : Tallied log kind drops) (hview : log'.view kind = log.view kind) :
    Tallied log' kind drops := by
  simp only [view, Prod.mk.injEq] at hview
  obtain ⟨hlast, htotal, hlogged, hlines⟩ := hview
  have hlogged' : log'.logged kind = log.logged kind := by
    rw [DropLog.logged, hlogged, DropLog.logged]
  constructor
  · rw [DropLog.total, htotal]
    exact h.total
  · rw [hlogged', hlines, h.logged]
  · rw [hlast, hlines, h.last]
  · rw [hlines, hlogged', h.increments]
  · rw [hlines]
    exact h.spaced

theorem Tallied.suppressed (h : Tallied log call.kind drops) :
    Tallied (log.suppressed call) call.kind (drops + call.count) where
  total := by simp [DropLog.suppressed, DropLog.total, ← h.total]
  logged := h.logged
  last := h.last
  increments := h.increments
  spaced := h.spaced

theorem Tallied.printed (h : Tallied log call.kind drops)
    (hspaced : call.force = false → 30 ≤ call.now - (log.lastDropLogAt call.kind).getD 0) :
    Tallied (log.printed call) call.kind (drops + call.count) := by
  have hlines : (log.printed call).linesOf call.kind = log.linesOf call.kind ++ [log.nextLine call] := by
    rw [linesOf_printed, if_pos rfl]
  have hlogged : (log.printed call).logged call.kind = drops + call.count := by
    simp [DropLog.printed, DropLog.logged, h.total]
  constructor
  · simp [DropLog.printed, DropLog.suppressed, DropLog.total, ← h.total]
  · rw [hlogged, hlines, List.getLast?_concat, Option.map_some, Option.getD_some, nextLine, h.total]
  · rw [hlines, List.getLast?_concat]
    simp [DropLog.printed, nextLine]
  · rw [hlines, List.map_append, List.sum_append, h.increments, hlogged, List.map_singleton,
      List.sum_singleton, nextLine]
    have htotal := h.total
    dsimp only
    omega
  · rw [hlines, List.isChain_append]
    refine ⟨h.spaced, .singleton _, fun earlier hearlier later hlater hforce => ?_⟩
    obtain rfl : log.nextLine call = later := Option.some.inj hlater
    have hlast : log.lastDropLogAt call.kind = some earlier.now := by
      rw [h.last, Option.mem_def.mp hearlier, Option.map_some]
    have hgap := hspaced hforce
    rwa [hlast] at hgap

theorem Tallied.step (h : Tallied log kind drops) :
    Tallied (log.logDroppedThrottled call) kind
      (drops + if call.kind = kind then max call.count 0 else 0) := by
  by_cases hkind : call.kind = kind
  · subst hkind
    rw [if_pos rfl]
    obtain ⟨hcount, hnext⟩ | ⟨hcount, hnext⟩ | ⟨hcount, hspaced, hnext⟩ :=
      logDroppedThrottled_cases log call
    · rw [hnext, Int.max_eq_right hcount, Int.add_zero]
      exact h
    · rw [hnext, Int.max_eq_left hcount.le]
      exact h.suppressed
    · rw [hnext, Int.max_eq_left hcount.le]
      exact h.printed hspaced
  · rw [if_neg hkind, Int.add_zero]
    exact h.of_view (view_of_ne hkind)

theorem run_concat (calls : List DropCall) (call : DropCall) :
    run (calls ++ [call]) = (run calls).logDroppedThrottled call := by
  rw [run, List.foldl_append, List.foldl_cons, List.foldl_nil, run]

theorem dropped_concat (calls : List DropCall) (call : DropCall) (kind : String) :
    dropped (calls ++ [call]) kind =
      dropped calls kind + if call.kind = kind then max call.count 0 else 0 := by
  rw [dropped, dropped, List.filter_append, List.map_append, List.sum_append]
  by_cases hkind : call.kind = kind <;> simp [hkind]

/-- The run lemma. -/
theorem tallied_run (calls : List DropCall) (kind : String) :
    Tallied (run calls) kind (dropped calls kind) := by
  induction calls using List.reverseRecOn with
  | nil => exact tallied_empty kind
  | append_singleton calls call ih =>
      rw [run_concat, dropped_concat]
      exact ih.step

/-- The calls for other kinds might as well not be made. -/
theorem view_run_filter (calls : List DropCall) (kind : String) :
    (run calls).view kind = (run (calls.filter (·.kind = kind))).view kind := by
  induction calls using List.reverseRecOn with
  | nil => rfl
  | append_singleton calls call ih =>
      rw [run_concat, List.filter_append]
      by_cases hkind : call.kind = kind
      · rw [List.filter_cons_of_pos (by simpa using hkind), List.filter_nil, run_concat]
        exact view_congr ih hkind
      · rw [List.filter_cons_of_neg (by simpa using hkind), List.filter_nil, List.append_nil,
          view_of_ne hkind, ih]

theorem linesOf_run_concat (calls : List DropCall) (call : DropCall) (kind : String) :
    (run (calls ++ [call])).linesOf kind = (run calls).linesOf kind ∨
      ∃ line, (run (calls ++ [call])).linesOf kind = (run calls).linesOf kind ++ [line] ∧
        line.total = dropped (calls ++ [call]) kind := by
  rw [run_concat]
  obtain ⟨-, hnext⟩ | ⟨-, hnext⟩ | ⟨hcount, -, hnext⟩ := logDroppedThrottled_cases (run calls) call
  · exact .inl (by rw [hnext])
  · exact .inl (by rw [hnext]; rfl)
  · rw [hnext, linesOf_printed]
    by_cases hkind : call.kind = kind
    · subst hkind
      refine .inr ⟨(run calls).nextLine call, by rw [if_pos rfl], ?_⟩
      rw [dropped_concat, if_pos rfl, Int.max_eq_left hcount.le, nextLine,
        (tallied_run calls call.kind).total]
    · exact .inl (by rw [if_neg hkind, List.append_nil])

/-- The accounting holds for every kind, whatever calls are made at whatever times. -/
theorem drop_accounting (calls : List DropCall) (kind : String) : DropAccounting calls kind := by
  have h := tallied_run calls kind
  constructor
  · rw [h.increments, h.logged]
  · exact h.total
  · intro call
    rw [h.total, (tallied_run (calls ++ [call]) kind).total, dropped_concat]
    split
    · have := Int.le_max_right call.count 0
      omega
    · omega
  · exact h.spaced
  · intro call
    exact linesOf_run_concat calls call kind
  · exact view_run_filter calls kind

end DropLog

end SkyWalking
