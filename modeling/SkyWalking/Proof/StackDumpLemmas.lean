import SkyWalking.Profile.StackDump

/-!
# How deep a snapshot is

The loop compares the index before it appends, so that it stops one frame late.
-/

namespace SkyWalking

namespace StackDump

theorem stackList_eq (maxStackDepth idx : Nat) (extracted : List Frame) :
    stackList maxStackDepth idx extracted =
      (extracted.take (maxStackDepth + 1 - idx)).map Frame.codeSig := by
  induction extracted generalizing idx with
  | nil => rw [stackList, List.take_nil, List.map_nil]
  | cons item rest ih =>
      rw [stackList]
      split
      · next hlt =>
        have hnone : maxStackDepth + 1 - idx = 0 := by omega
        rw [hnone, List.take_zero, List.map_nil]
      · next hle =>
        have hone : maxStackDepth + 1 - idx = (maxStackDepth + 1 - (idx + 1)) + 1 := by omega
        rw [ih, hone, List.take_succ_cons, List.map_cons]

theorem Profiler.dump_stackList {profiler : Profiler} {currentTime : Int} {list : List String}
    {t : TracingThreadSnapshot} (h : (profiler.dump currentTime list).1 = some t) :
    t.stackList = list := by
  unfold dump at h
  dsimp only at h
  generalize (if profiler.dumpSequence = 0 then profiler.isStartProfileable else (true, profiler)) =
    checked at h
  split at h
  · obtain rfl := Option.some.inj h
    rfl
  · cases h

/-- A snapshot holds one frame more than the limit, if there is one. -/
theorem Built.stackList_eq {maxStackDepth : Nat} {extracted : List Frame} {t : TracingThreadSnapshot}
    (h : Built maxStackDepth extracted t) :
    t.stackList = (extracted.take (maxStackDepth + 1)).map Frame.codeSig := by
  cases h with
  | thread profiler currentTime h =>
      rw [Profiler.dump_stackList h, StackDump.stackList_eq, Nat.sub_zero]
  | greenlet profiler currentTime h =>
      rw [Profiler.dump_stackList h, StackDump.stackList_eq, Nat.sub_zero]

/-- The limit is kept exactly by the stacks that are not deeper than it. -/
theorem keepsLimit_iff {maxStackDepth : Nat} {extracted : List Frame} {t : TracingThreadSnapshot}
    (h : Built maxStackDepth extracted t) :
    KeepsLimit maxStackDepth extracted t ↔ extracted.length ≤ maxStackDepth := by
  rw [KeepsLimit, h.stackList_eq]
  constructor
  · rintro ⟨-, hlength⟩
    rw [List.length_map, List.length_take] at hlength
    omega
  · intro hdepth
    rw [List.take_of_length_le (Nat.le_succ_of_le hdepth), List.take_of_length_le hdepth,
      List.length_map]
    exact ⟨rfl, hdepth⟩

def mainFrame : Frame := ⟨"app.py", "main", some 3⟩

def firstDump : Profiler := ⟨"task", 5, "segment", 0, 0⟩

/-- A stack as deep as the limit. -/
theorem keepsLimit_at_limit :
    KeepsLimit 1 [mainFrame] ⟨"task", "segment", 0, 7, ["app.py.main: 3"]⟩ ↔ [mainFrame].length ≤ 1 :=
  keepsLimit_iff (.thread firstDump 7 rfl)

/-- A limit of zero, and one frame all the same. -/
theorem one_frame_over_limit : Built 0 [mainFrame] ⟨"task", "segment", 0, 7, ["app.py.main: 3"]⟩ ∧
    ¬ KeepsLimit 0 [mainFrame] ⟨"task", "segment", 0, 7, ["app.py.main: 3"]⟩ :=
  ⟨.thread firstDump 7 rfl, fun h => absurd h.2 (by decide)⟩

end StackDump

end SkyWalking
