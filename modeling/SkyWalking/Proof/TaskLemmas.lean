import SkyWalking.Trace.Tasks
import SkyWalking.Proof.BlockRun

/-!
# Interleaved tasks lose nothing

The depth of a span is the number of open blocks that use it. Together with the ledger invariants this
survives every step of every task, as long as no block gets a finished span.
-/

namespace SkyWalking

open World

theorem Opened.sound {task : Nat} {call : Call} {w : World} {span : Nat} {l : Ledger}
    (hopened : Opened task call w span l) (hsound : w.ledger.Sound)
    (hview : ∀ x ∈ w.view task, x < w.spans.size)
    (hreuse : ∀ top, (w.view task).getLast? = some top → call.reuses (w.span top) →
      (w.span top).depth ≠ 0) : l.Sound := by
  have hlt : ∀ top, (w.view task).getLast? = some top → top < w.ledger.spans.size :=
    fun top htop => hview top (List.mem_of_getLast? htop)
  have hpos : ∀ top, (w.view task).getLast? = some top → (w.span top).depth ≠ 0 →
      0 < (w.ledger.span top).depth := by
    intro top htop hne
    have hge := hsound.whole.depth_nonneg top (hlt top htop)
    exact lt_of_le_of_ne hge (Ne.symm hne)
  -- a context that was just made is neither noop by accident nor archived
  have hroot : ∀ pid, ((((w.ledger.newContext false).create w.contexts.size pid).start
      w.spans.size).Sound) := by
    intro pid
    refine (hsound.newContext false).created pid (Nat.lt_succ_self _)
      (congrArg Ledger.Context.noop (w.ledger.context_newContext_size false)) fun hmem => ?_
    exact absurd (hsound.sealed.archived_lt _ hmem) (Nat.lt_irrefl _)
  have hnoop : (((w.ledger.newContext true).createNoop w.contexts.size).start
      w.spans.size).Sound :=
    (hsound.newContext true).createdNoop (Nat.lt_succ_self _)
      (congrArg Ledger.Context.noop (w.ledger.context_newContext_size true))
  cases hopened with
  | rootNoop => exact hnoop
  | rootSuppressed =>
      exact ((hsound.newContext false).newContext true).createdNoop (Nat.lt_succ_self _)
        (congrArg Ledger.Context.noop ((w.ledger.newContext false).context_newContext_size true))
  | root => exact hroot (-1)
  | noop top htop hctx =>
      exact hsound.createdNoop (hsound.inv.context_lt top (hlt top htop)) hctx
  | suppressed => exact hnoop
  | reused top htop _ htest =>
      exact hsound.reused (hlt _ htop) (hpos _ htop (hreuse _ htop htest))
  | created top htop hreal hdepth =>
      exact hsound.created _ (hsound.inv.context_lt top (hlt top htop)) hreal
        (hsound.not_archived (hlt top htop) (hpos top htop hdepth))
  | detached => exact hroot (-1)

/-- Opening a block enters its span and leaves the others alone; at most that span is new. -/
theorem Opened.span_eq {task : Nat} {call : Call} {w : World} {span : Nat} {l : Ledger}
    (hopened : Opened task call w span l) {x : Nat} (hx : x < w.spans.size) :
    l.span x = if x = span then (w.ledger.span x).enter else w.ledger.span x := by
  have hnoop : ∀ (l' : Ledger) c, l'.spans = w.ledger.spans →
      ((l'.createNoop c).start w.spans.size).span x =
        if x = w.spans.size then (w.ledger.span x).enter else w.ledger.span x := by
    intro l' c hspans
    have hsize : l'.spans.size = w.spans.size := by rw [hspans]; rfl
    rw [if_neg hx.ne, Ledger.span_start, if_neg hx.ne,
      Ledger.span_createNoop_of_lt l' c (hsize ▸ hx)]
    simp only [Ledger.span, hspans]
  have hreal : ∀ (l' : Ledger) c pid, l'.spans = w.ledger.spans →
      ((l'.create c pid).start w.spans.size).span x =
        if x = w.spans.size then (w.ledger.span x).enter else w.ledger.span x := by
    intro l' c pid hspans
    have hsize : l'.spans.size = w.spans.size := by rw [hspans]; rfl
    rw [if_neg hx.ne, Ledger.span_start, if_neg hx.ne,
      Ledger.span_create_of_lt l' c pid (hsize ▸ hx)]
    simp only [Ledger.span, hspans]
  cases hopened with
  | rootNoop => exact hnoop _ _ rfl
  | rootSuppressed => exact hnoop _ _ rfl
  | root => exact hreal _ _ _ rfl
  | noop => exact hnoop _ _ rfl
  | suppressed => exact hnoop _ _ rfl
  | reused => exact w.ledger.span_start _ x
  | created => exact hreal _ _ _ rfl
  | detached => exact hreal _ _ _ rfl

theorem Opened.size_cases {task : Nat} {call : Call} {w : World} {span : Nat} {l : Ledger}
    (hopened : Opened task call w span l) :
    l.spans.size = w.spans.size + 1 ∧ span = w.spans.size ∨
      l.spans.size = w.spans.size ∧ (w.view task).getLast? = some span := by
  cases hopened with
  | reused _ htop => exact Or.inr ⟨Ledger.spans_size_start _ _, htop⟩
  | rootNoop => exact Or.inl ⟨Ledger.spans_size_start _ _, rfl⟩
  | rootSuppressed => exact Or.inl ⟨Ledger.spans_size_start _ _, rfl⟩
  | root => exact Or.inl ⟨Ledger.spans_size_start _ _, rfl⟩
  | noop => exact Or.inl ⟨Ledger.spans_size_start _ _, rfl⟩
  | suppressed => exact Or.inl ⟨Ledger.spans_size_start _ _, rfl⟩
  | created => exact Or.inl ⟨Ledger.spans_size_start _ _, rfl⟩
  | detached => exact Or.inl ⟨Ledger.spans_size_start _ _, rfl⟩

/-- A new span whose parent number is not `-1` was created under a span of its own context. -/
theorem Opened.parent {task : Nat} {call : Call} {w : World} {span : Nat} {l : Ledger}
    (hopened : Opened task call w span l) (hnew : span = w.spans.size)
    (hview : ∀ x ∈ w.view task, x < w.spans.size) (hpid : (l.span span).pid ≠ -1) :
    ∃ top, (w.view task).getLast? = some top ∧ (w.span top).depth ≠ 0 ∧
      (l.span span).context = (w.span top).context ∧ (l.span span).pid = (w.span top).sid := by
  have hnoop := fun (l : Ledger) c => congrArg Ledger.Span.pid (l.span_createNoop_start c)
  have hreal := fun (l : Ledger) c pid => l.span_create_start c pid
  cases hopened with
  | rootNoop => exact absurd (hnoop (w.ledger.newContext true) _) hpid
  | rootSuppressed =>
      exact absurd (hnoop ((w.ledger.newContext false).newContext true) _) hpid
  | root =>
      exact absurd (congrArg Ledger.Span.pid (hreal (w.ledger.newContext false) _ _)) hpid
  | noop => exact absurd (hnoop w.ledger _) hpid
  | suppressed => exact absurd (hnoop (w.ledger.newContext true) _) hpid
  | reused _ htop =>
      have hlt := hview span (List.mem_of_getLast? htop)
      omega
  | created top htop _ hdepth =>
      have hspan := hreal w.ledger (w.span top).context (w.span top).sid
      exact ⟨top, htop, hdepth, congrArg Ledger.Span.context hspan, congrArg Ledger.Span.pid hspan⟩
  | detached =>
      exact absurd (congrArg Ledger.Span.pid (hreal (w.ledger.newContext false) _ _)) hpid

structure TaskInv (s : TaskState) : Prop where
  varsOk : s.world.VarsOk
  view_lt : ∀ t, ∀ x ∈ s.world.view t, x < s.world.spans.size
  sound : s.world.ledger.Sound
  depth_eq : ∀ x < s.world.spans.size,
    (s.world.span x).depth = ((s.blocks.map Prod.snd).count x : Nat)
  blocks_lt : ∀ b ∈ s.blocks, b.2 < s.world.spans.size

theorem TaskInv.init : TaskInv .init where
  varsOk := varsOk_init
  view_lt _ _ hx := by simp [TaskState.init, World.view, World.init] at hx
  sound := sound_init
  depth_eq _ hx := absurd hx (Nat.not_lt_zero _)
  blocks_lt _ hb := by simp [TaskState.init] at hb

theorem TaskInv.quiet {s : TaskState} (hinv : TaskInv s) {w : World}
    (hquiet : w.VarsOk ∧ ∀ task, w.view task = s.world.view task)
    (hledger : w.ledger = s.world.ledger) : TaskInv { s with world := w } := by
  have hsize : w.spans.size = s.world.spans.size := congrArg (fun l => l.spans.size) hledger
  have hspan : ∀ x, (w.span x).depth = (s.world.span x).depth := fun x =>
    congrArg (fun l => (l.span x).depth) hledger
  constructor
  · exact hquiet.1
  · intro t x hx
    rw [hquiet.2] at hx
    simp only [hsize]
    exact hinv.view_lt t x hx
  · exact hledger ▸ hinv.sound
  · intro x hx
    rw [hspan]
    exact hinv.depth_eq x (hsize ▸ hx)
  · intro b hb
    simp only [hsize]
    exact hinv.blocks_lt b hb

theorem view_spawn (w : World) (creator child t : Nat) :
    (w.spawn creator child).view t = if t = child then w.view creator else w.view t := by
  by_cases ht : t = child
  · simp [World.view, World.spawn, ht]
  · simp [World.view, World.spawn, ht]

theorem TaskInv.spawn {s : TaskState} (hinv : TaskInv s) (creator child : Nat) :
    TaskInv { s with
      world := s.world.spawn creator child
      started := child :: s.started } := by
  constructor
  · intro t list hlist
    simp only [World.spawn, Function.update_apply] at hlist
    split at hlist
    · exact hinv.varsOk creator list hlist
    · exact hinv.varsOk t list hlist
  · intro t x hx
    rw [view_spawn] at hx
    split at hx
    · exact hinv.view_lt creator x hx
    · exact hinv.view_lt t x hx
  · exact hinv.sound
  · exact hinv.depth_eq
  · exact hinv.blocks_lt

theorem Call.Plain.not_reopens {call : Call} (hplain : call.Plain) {w : World} {task : Nat}
    (hguard : ¬ Reopens w task call) {top : Nat} (htop : (w.view task).getLast? = some top)
    (hreuse : call.reuses (w.span top)) : (w.span top).depth ≠ 0 := by
  intro hzero
  cases call with
  | newLocalSpan op => exact hreuse
  | newEntrySpan op carrier inherit =>
      have hnone : inherit = none := hplain
      rw [hnone] at hreuse
      cases hreuse.2
  | newExitSpan op peer component inherit => exact hguard ⟨top, htop, hzero, hreuse⟩

theorem TaskInv.openBlock (env : Env) {s : TaskState} (hinv : TaskInv s) {task : Nat}
    {answers : BlockAnswers} {call : Call} {w : World} {span : Nat} (hplain : call.Plain)
    (hguard : ¬ Reopens s.world task call)
    (hopen : SkyWalking.openBlock env task answers call s.world = (w, .ok span)) :
    TaskInv { s with
      world := w
      blocks := (task, span) :: s.blocks } := by
  have hopened := Opened.of_openBlock env hinv.varsOk hopen
  obtain ⟨hok, -, hview⟩ := openBlock_view env hinv.varsOk (hinv.view_lt task) hopen
  have hle : s.world.spans.size ≤ w.spans.size := hopened.spans_size_le
  have hspan : span < w.spans.size := by
    rcases hopened.size_cases with ⟨hsize, hnew⟩ | ⟨hsize, htop⟩
    · have hsize' : w.spans.size = s.world.spans.size + 1 := hsize
      omega
    · exact (hinv.view_lt task span (List.mem_of_getLast? htop)).trans_le hle
  constructor
  · exact hok
  · intro t x hx
    rw [hview] at hx
    split at hx
    · rw [pushed] at hx
      split at hx
      · exact (hinv.view_lt task x hx).trans_le hle
      · rcases List.mem_append.mp hx with hx | hx
        · exact (hinv.view_lt task x hx).trans_le hle
        · rw [List.mem_singleton.mp hx]
          exact hspan
    · exact (hinv.view_lt t x hx).trans_le hle
  · exact hopened.sound hinv.sound (hinv.view_lt task)
      fun top htop hreuse => hplain.not_reopens hguard htop hreuse
  · intro x hx
    rcases Nat.lt_or_ge x s.world.spans.size with hlt | hge
    · have hdepth : (w.span x).depth =
          (if x = span then (s.world.ledger.span x).enter else s.world.ledger.span x).depth :=
        congrArg Ledger.Span.depth (hopened.span_eq hlt)
      have hold := hinv.depth_eq x hlt
      rw [hdepth, List.map_cons, List.count_cons]
      split
      · next heq =>
        subst heq
        simp only [Ledger.Span.enter, beq_self_eq_true, if_true, ledger_span, Span.toLedger]
        push_cast
        omega
      · next hne =>
        rw [if_neg (by simpa using fun h : span = x => hne h.symm)]
        exact hold
    · -- the new span is entered once, and no older block uses it
      rcases hopened.size_cases with ⟨hsize, hnew⟩ | ⟨hsize, _⟩
      · have hx' : x = span := by
          have hsize' : w.spans.size = s.world.spans.size + 1 := hsize
          simp only at hx
          omega
        subst hx'
        have hone : (w.span x).depth = 1 := hopened.depth_new hnew (hinv.view_lt task)
        have hcount : (s.blocks.map Prod.snd).count x = 0 := by
          rw [List.count_eq_zero]
          intro hmem
          obtain ⟨b, hb, heq⟩ := List.mem_map.mp hmem
          have hlt := hinv.blocks_lt b hb
          omega
        rw [hone, List.map_cons, List.count_cons_self, hcount]
        rfl
      · have hsize' : w.spans.size = s.world.spans.size := hsize
        simp only at hx
        omega
  · intro b hb
    rcases List.mem_cons.mp hb with rfl | hb
    · exact hspan
    · exact (hinv.blocks_lt b hb).trans_le hle

theorem perm_of_find {blocks : List (Nat × Nat)} {task span : Nat}
    (hfind : blocks.find? (·.1 = task) = some (task, span)) :
    blocks.Perm ((task, span) :: blocks.eraseP (·.1 = task)) := by
  induction blocks with
  | nil => simp at hfind
  | cons b blocks ih =>
      by_cases hb : b.1 = task
      · rw [List.find?_cons_of_pos (by simpa using hb)] at hfind
        rw [List.eraseP_cons_of_pos (by simpa using hb), ← Option.some.inj hfind]
      · rw [List.find?_cons_of_neg (by simpa using hb)] at hfind
        rw [List.eraseP_cons_of_neg (by simpa using hb)]
        exact ((ih hfind).cons b).trans (List.Perm.swap _ _ _)

theorem ledger_closeBlock (env : Env) (task span : Nat) (answers : BlockAnswers)
    (raised : Option Raised) {w : World} (hok : w.VarsOk) :
    (closeBlock env task span answers raised w).ledger = w.ledger.stop span := by
  rw [closeBlock, ledger_stop, (noteRaised_quiet env answers hok span raised).2]

theorem view_closeBlock (env : Env) (task span : Nat) (answers : BlockAnswers)
    (raised : Option Raised) {w : World} (hok : w.VarsOk) (t : Nat) :
    (closeBlock env task span answers raised w).view t =
      if t = task ∧ (w.span span).depth = 1 then (w.view task).erase span else w.view t := by
  obtain ⟨hquiet, hledger⟩ := noteRaised_quiet env answers hok span raised
  have hdepth : ((noteRaised env answers span raised w).span span).depth = (w.span span).depth :=
    congrArg (fun l => (l.span span).depth) hledger
  rw [closeBlock, view_stop hquiet.varsOk, hquiet.view_eq, hquiet.view_eq, hdepth]

theorem TaskInv.closeBlock (env : Env) {s : TaskState} (hinv : TaskInv s) {task span : Nat}
    (answers : BlockAnswers) (raised : Option Raised)
    (hfind : s.blocks.find? (·.1 = task) = some (task, span)) :
    TaskInv { s with
      world := SkyWalking.closeBlock env task span answers raised s.world
      blocks := s.blocks.eraseP (·.1 = task) } := by
  have hperm := perm_of_find hfind
  have hspan : span < s.world.spans.size :=
    hinv.blocks_lt (task, span) (hperm.mem_iff.mpr List.mem_cons_self)
  have hcount : ∀ x, (s.blocks.map Prod.snd).count x =
      ((s.blocks.eraseP (·.1 = task)).map Prod.snd).count x + if x = span then 1 else 0 := by
    intro x
    rw [(hperm.map Prod.snd).count_eq, List.map_cons, List.count_cons]
    by_cases hx : x = span
    · simp [hx]
    · simp [hx, Ne.symm hx]
  have hdepth : 0 < (s.world.ledger.span span).depth := by
    have hold := hinv.depth_eq span hspan
    rw [hcount span, if_pos rfl] at hold
    simp only [ledger_span, Span.toLedger]
    omega
  have hledger := ledger_closeBlock env task span answers raised hinv.varsOk
  have hsize : (SkyWalking.closeBlock env task span answers raised s.world).spans.size =
      s.world.spans.size := by
    have h := congrArg (fun l => l.spans.size) hledger
    exact h.trans (Ledger.spans_size_stop _ _)
  constructor
  · exact (noteRaised_quiet env answers hinv.varsOk span raised).1.varsOk.stop task span _
  · intro t x hx
    simp only [hsize]
    rw [view_closeBlock env task span answers raised hinv.varsOk] at hx
    split at hx
    · exact hinv.view_lt task x (List.mem_of_mem_erase hx)
    · exact hinv.view_lt t x hx
  · rw [hledger]
    exact hinv.sound.stop hspan hdepth
  · intro x hx
    have hold := hinv.depth_eq x (hsize ▸ hx)
    have hx' : ((SkyWalking.closeBlock env task span answers raised s.world).span x).depth =
        (if x = span then (s.world.ledger.span x).leave else s.world.ledger.span x).depth := by
      have h := congrArg (fun l => (l.span x).depth) hledger
      rw [Ledger.span_stop] at h
      exact h
    rw [hx']
    rw [hcount x] at hold
    split
    · next heq =>
      rw [if_pos heq] at hold
      simp only [Ledger.Span.leave, ledger_span, Span.toLedger]
      push_cast at hold
      omega
    · next hne =>
      rw [if_neg hne] at hold
      exact hold
  · intro b hb
    simp only [hsize]
    exact hinv.blocks_lt b (List.mem_of_mem_eraseP hb)

theorem TaskInv.step (env : Env) {s s' : TaskState} {label : TaskLabel} (hinv : TaskInv s)
    (hstep : Guarded NoReopening (TaskStep env) s label s') : TaskInv s' := by
  obtain ⟨hguard, hstep⟩ := hstep
  cases hstep with
  | spawn => exact hinv.spawn _ _
  | openBlock _ hplain hopen => exact hinv.openBlock env hplain hguard hopen
  | closeBlock hfind => exact hinv.closeBlock env _ _ hfind
  | @edit task span change hmem =>
      have hquiet := quiet_edit env hinv.varsOk span change
      exact hinv.quiet ⟨hquiet.varsOk, hquiet.view_eq⟩ (ledger_edit env _ span change)
  | @inject task span hmem =>
      exact hinv.quiet (view_inject env _ hinv.varsOk span) (ledger_inject env _ span)
  | @receive sw8 correlation =>
      exact hinv.quiet (view_receiveCarrier env _ hinv.varsOk sw8 correlation) rfl
  | wait => exact hinv.quiet ⟨hinv.varsOk.congr rfl rfl, view_congr rfl rfl⟩ rfl

theorem TaskInv.run (env : Env) {s : TaskState} {labels : List TaskLabel}
    (hrun : Run (Guarded NoReopening (TaskStep env)) .init labels s) : TaskInv s :=
  hrun.invariant (fun _ _ _ hinv hstep => hinv.step env hstep) .init

section Steps

variable {env : Env} {s s' : TaskState} {label : TaskLabel}

/-- A step changes at most the stack of the task that makes it. -/
theorem TaskInv.step_view (hinv : TaskInv s) (hstep : TaskStep env s label s') {t : Nat}
    (ht : label.actor ≠ some t) : s'.world.view t = s.world.view t := by
  cases hstep with
  | @spawn creator child =>
      have hne : t ≠ child := fun heq => ht (by rw [heq]; rfl)
      rw [view_spawn, if_neg hne]
  | @openBlock task answers call w span _ _ hopen =>
      have hne : t ≠ task := fun heq => ht (by rw [heq]; rfl)
      obtain ⟨-, -, hview⟩ := openBlock_view env hinv.varsOk (hinv.view_lt task) hopen
      rw [hview, if_neg hne]
  | @closeBlock task answers raised span _ =>
      have hne : t ≠ task := fun heq => ht (by rw [heq]; rfl)
      rw [view_closeBlock env task span answers raised hinv.varsOk, if_neg (fun h => hne h.1)]
  | @edit task span change _ => exact (quiet_edit env hinv.varsOk span change).view_eq t
  | @inject task span _ => exact (view_inject env _ hinv.varsOk span).2 t
  | @receive sw8 correlation => exact (view_receiveCarrier env _ hinv.varsOk sw8 correlation).2 t
  | wait => rfl

theorem TaskInv.archivesLast (hinv : TaskInv s) (hstep : TaskStep env s label s') :
    ArchivesLast s label s' := by
  cases hstep with
  | spawn => exact Or.inl rfl
  | openBlock _ _ hopen => exact Or.inl (Opened.of_openBlock env hinv.varsOk hopen).archived_eq
  | @closeBlock task answers raised span hfind =>
      have hspan : span < s.world.ledger.spans.size :=
        hinv.blocks_lt (task, span) ((perm_of_find hfind).mem_iff.mpr List.mem_cons_self)
      have harchived := congrArg Ledger.archived
        (ledger_closeBlock env task span answers raised hinv.varsOk)
      rw [Ledger.archived_stop] at harchived
      split at harchived
      · next hlast =>
        have hctx := hinv.sound.inv.context_lt span hspan
        have hopen : s.world.ledger.openSpans (s.world.span span).context = {span} := by
          have hcard := hinv.sound.inv.nspans_eq _ hctx
          rw [hlast.2.2] at hcard
          obtain ⟨y, hy⟩ := Finset.card_eq_one.mp (by exact_mod_cast hcard.symm)
          have hmem : span ∈ s.world.ledger.openSpans (s.world.span span).context :=
            Ledger.mem_openSpans.mpr ⟨hspan, rfl, by rw [hlast.1]; decide⟩
          have hy' : s.world.ledger.openSpans (s.world.span span).context = {y} := hy
          rw [hy', Finset.mem_singleton] at hmem
          rw [hy', hmem]
        refine Or.inr ⟨task, answers, raised, span, rfl, hfind, harchived, ?_, hlast.1, ?_⟩
        · exact hinv.sound.not_archived hspan (by rw [hlast.1]; decide)
        · intro x hx hcontext hne
          by_contra hdepth
          have hge := hinv.sound.whole.depth_nonneg x hx
          have hmem : x ∈ s.world.ledger.openSpans (s.world.span span).context :=
            Ledger.mem_openSpans.mpr ⟨hx, hcontext, lt_of_le_of_ne hge (Ne.symm hdepth)⟩
          rw [hopen, Finset.mem_singleton] at hmem
          exact hne hmem
      · exact Or.inl harchived
  | @edit task span change _ =>
      exact Or.inl (congrArg Ledger.archived (ledger_edit env s.world span change))
  | @inject task span _ => exact Or.inl (congrArg Ledger.archived (ledger_inject env s.world span))
  | receive => exact Or.inl rfl
  | wait => exact Or.inl rfl

theorem TaskInv.parentsOpen (hinv : TaskInv s) (hstep : TaskStep env s label s') :
    ParentsOpen s s' := by
  intro x hge hlt hpid
  cases hstep with
  | spawn => exact absurd hlt (Nat.not_lt.mpr hge)
  | @openBlock task answers call w span _ _ hopen =>
      have hopened := Opened.of_openBlock env hinv.varsOk hopen
      rcases hopened.size_cases with ⟨hsize, hnew⟩ | ⟨hsize, _⟩
      · have hsize' : w.spans.size = s.world.spans.size + 1 := hsize
        have hx : x = span := by
          simp only at hlt
          omega
        subst hx
        obtain ⟨top, htop, hdepth, hcontext, hsid⟩ :=
          hopened.parent hnew (hinv.view_lt task) hpid
        have htopLt := hinv.view_lt task top (List.mem_of_getLast? htop)
        have hnonneg := hinv.sound.whole.depth_nonneg top htopLt
        exact ⟨top, htopLt, lt_of_le_of_ne hnonneg (Ne.symm hdepth), hcontext, hsid⟩
      · have hsize' : w.spans.size = s.world.spans.size := hsize
        simp only at hlt
        omega
  | @closeBlock task answers raised span _ =>
      have hsize := congrArg (fun l => l.spans.size)
        (ledger_closeBlock env task span answers raised hinv.varsOk)
      have hsize' := hsize.trans (Ledger.spans_size_stop _ _)
      exact absurd hlt (Nat.not_lt.mpr (hsize'.le.trans hge))
  | @edit task span change _ =>
      have hsize := congrArg (fun l => l.spans.size) (ledger_edit env s.world span change)
      exact absurd hlt (Nat.not_lt.mpr (hsize.le.trans hge))
  | @inject task span _ =>
      have hsize := congrArg (fun l => l.spans.size) (ledger_inject env s.world span)
      exact absurd hlt (Nat.not_lt.mpr (hsize.le.trans hge))
  | receive => exact absurd hlt (Nat.not_lt.mpr hge)
  | wait => exact absurd hlt (Nat.not_lt.mpr hge)

/-- Whatever keeps a span in the ledger up to its depth keeps what identifies it. -/
theorem keepsSpan_of_ledger {span span' : Span}
    (h : span'.toLedger = span.toLedger ∨ span'.toLedger = span.toLedger.enter ∨
      span'.toLedger = span.toLedger.leave) :
    (span'.cls = .NoopSpan ↔ span.cls = .NoopSpan) ∧ span'.context = span.context ∧
      span'.sid = span.sid ∧ span'.pid = span.pid := by
  have hnoop : span'.toLedger.noop = span.toLedger.noop := by
    rcases h with h | h | h <;> rw [h] <;> rfl
  have hrest : span'.toLedger.context = span.toLedger.context ∧
      span'.toLedger.sid = span.toLedger.sid ∧ span'.toLedger.pid = span.toLedger.pid := by
    rcases h with h | h | h <;> rw [h] <;> exact ⟨rfl, rfl, rfl⟩
  rw [← toLedger_noop, ← toLedger_noop, hnoop]
  exact ⟨Iff.rfl, hrest⟩

theorem TaskInv.keepsSpans (hinv : TaskInv s) (hstep : TaskStep env s label s') :
    KeepsSpans s s' := by
  intro x hx
  refine keepsSpan_of_ledger ?_
  cases hstep with
  | spawn => exact Or.inl rfl
  | openBlock _ _ hopen =>
      have hspan := (Opened.of_openBlock env hinv.varsOk hopen).span_eq hx
      split at hspan
      · exact Or.inr (Or.inl hspan)
      · exact Or.inl hspan
  | @closeBlock task answers raised span _ =>
      have hspan : (SkyWalking.closeBlock env task span answers raised s.world).ledger.span x = _ :=
        congrArg (fun l => l.span x) (ledger_closeBlock env task span answers raised hinv.varsOk)
      rw [Ledger.span_stop] at hspan
      split at hspan
      · exact Or.inr (Or.inr hspan)
      · exact Or.inl hspan
  | @edit task span change _ =>
      exact Or.inl (congrArg (fun l => l.span x) (ledger_edit env s.world span change))
  | @inject task span _ =>
      exact Or.inl (congrArg (fun l => l.span x) (ledger_inject env s.world span))
  | receive => exact Or.inl rfl
  | wait => exact Or.inl rfl

end Steps

theorem TaskInv.accounted {s : TaskState} (hinv : TaskInv s) (hclosed : s.blocks = []) :
    s.world.Accounted := by
  intro x hx hreal
  have hnoop : (s.world.ledger.span x).noop = false := toLedger_real.mpr hreal
  have hdepth : (s.world.ledger.span x).depth = 0 := by
    have h := hinv.depth_eq x hx
    rw [hclosed] at h
    exact h
  have hctx := hinv.sound.inv.context_lt x hx
  have hmem := hinv.sound.whole.recorded x hx hnoop hdepth
  have hcount : (s.world.ledger.context (s.world.ledger.span x).context).nspans = 0 := by
    rw [hinv.sound.inv.nspans_eq _ hctx]
    have hempty : s.world.ledger.openSpans (s.world.ledger.span x).context = ∅ := by
      refine Finset.eq_empty_of_forall_notMem fun y hy => ?_
      obtain ⟨hlt, _, hpos⟩ := Ledger.mem_openSpans.mp hy
      have h := hinv.depth_eq y hlt
      rw [hclosed] at h
      exact absurd h hpos.ne'
    exact_mod_cast Finset.card_eq_zero.mpr hempty
  have harchived := hinv.sound.whole.settled x hx hnoop hcount
  refine ⟨fun c => ?_, List.count_eq_one_of_mem hinv.sound.sealed.archived_nodup harchived⟩
  split
  · next heq =>
    rw [heq]
    exact List.count_eq_one_of_mem (hinv.sound.sealed.nodup _) hmem
  · next hne =>
    rw [List.count_eq_zero]
    intro hmem'
    exact hne (hinv.sound.sealed.mem_context c x hmem').symm

/-- **Interleaved tasks.** In every run in which no block gets a finished span: once all blocks are
closed every real span is accounted for, numbers are unique within a segment, and each step leaves the
stacks of the other tasks alone, archives a segment only with its last open span, and creates spans
only under open parents of the same segment. -/
theorem tasks_account_for_spans (env : Env) {labels : List TaskLabel} {s : TaskState}
    (hrun : Run (Guarded NoReopening (TaskStep env)) .init labels s) :
    (s.blocks = [] → s.world.Accounted) ∧ s.world.SidsUnique ∧
      ∀ label s', Guarded NoReopening (TaskStep env) s label s' →
        (∀ t, label.actor ≠ some t → s'.world.view t = s.world.view t) ∧
          ArchivesLast s label s' ∧ ParentsOpen s s' ∧ KeepsSpans s s' := by
  have hinv := TaskInv.run env hrun
  refine ⟨hinv.accounted, ?_, ?_⟩
  · intro x hx y hy hrealX hrealY hcontext hsid
    exact hinv.sound.inv.sid_inj x hx y hy (toLedger_real.mpr hrealX) (toLedger_real.mpr hrealY)
      hcontext hsid
  · rintro label s' ⟨_, hstep⟩
    exact ⟨fun t ht => hinv.step_view hstep ht, hinv.archivesLast hstep, hinv.parentsOpen hstep,
      hinv.keepsSpans hstep⟩

section Outliving

/-- A task opens a local block while the entry block of its creator is open. -/
private abbrev outlivingParent : World × Except PyError Nat :=
  openBlock .sample 0 .permissive (.newEntrySpan "/" none none) .init

private abbrev outlivingChild : World × Except PyError Nat :=
  openBlock .sample 1 .permissive (.newLocalSpan "job") (outlivingParent.1.spawn 0 1)

private abbrev outlivingEnd : World :=
  closeBlock .sample 1 1 .permissive none
    (closeBlock .sample 0 0 .permissive none outlivingChild.1)

private theorem eq_of_snd {α β : Type} {x : α × β} {b : β} (h : x.2 = b) : x = (x.1, b) := by
  rw [← h]

private theorem noReopening_entry {s : TaskState} {task : Nat} {answers : BlockAnswers} {op : String}
    {carrier : Option Nat} {inherit : Option Component} :
    NoReopening s (.openBlock task answers (.newEntrySpan op carrier inherit)) := by
  rintro ⟨_, _, _, h⟩
  exact h

private theorem noReopening_local {s : TaskState} {task : Nat} {answers : BlockAnswers}
    {op : String} : NoReopening s (.openBlock task answers (.newLocalSpan op)) := by
  rintro ⟨_, _, _, h⟩
  exact h

private theorem outliving_run {parent child : World}
    (hparent : openBlock .sample 0 .permissive (.newEntrySpan "/" none none) .init =
      (parent, .ok 0))
    (hchild : openBlock .sample 1 .permissive (.newLocalSpan "job") (parent.spawn 0 1) =
      (child, .ok 1)) :
    Run (Guarded NoReopening (TaskStep .sample)) .init
      [.openBlock 0 .permissive (.newEntrySpan "/" none none), .spawn 0 1,
        .openBlock 1 .permissive (.newLocalSpan "job"), .closeBlock 0 .permissive none,
        .closeBlock 1 .permissive none]
      ⟨closeBlock .sample 1 1 .permissive none (closeBlock .sample 0 0 .permissive none child),
        [1, 0], []⟩ := by
  have hopen : TaskStep .sample .init (.openBlock 0 .permissive (.newEntrySpan "/" none none))
      ⟨parent, [0], [(0, 0)]⟩ :=
    .openBlock (by decide) rfl hparent
  have hspawn : TaskStep .sample ⟨parent, [0], [(0, 0)]⟩ (.spawn 0 1)
      ⟨parent.spawn 0 1, [1, 0], [(0, 0)]⟩ :=
    .spawn (by simp) (by simp)
  have hnested : TaskStep .sample ⟨parent.spawn 0 1, [1, 0], [(0, 0)]⟩
      (.openBlock 1 .permissive (.newLocalSpan "job")) ⟨child, [1, 0], [(1, 1), (0, 0)]⟩ :=
    .openBlock (by simp) trivial hchild
  have hfirst : TaskStep .sample ⟨child, [1, 0], [(1, 1), (0, 0)]⟩ (.closeBlock 0 .permissive none)
      ⟨closeBlock .sample 0 0 .permissive none child, [1, 0], [(1, 1)]⟩ :=
    .closeBlock rfl
  have hlast : TaskStep .sample ⟨closeBlock .sample 0 0 .permissive none child, [1, 0], [(1, 1)]⟩
      (.closeBlock 1 .permissive none)
      ⟨closeBlock .sample 1 1 .permissive none (closeBlock .sample 0 0 .permissive none child),
        [1, 0], []⟩ :=
    .closeBlock rfl
  exact ((((Run.single ⟨noReopening_entry, hopen⟩).snoc ⟨trivial, hspawn⟩).snoc
    ⟨noReopening_local, hnested⟩).snoc ⟨trivial, hfirst⟩).snoc ⟨trivial, hlast⟩

private theorem outlivingParent_eq :
    openBlock .sample 0 .permissive (.newEntrySpan "/" none none) .init =
      (outlivingParent.1, .ok 0) :=
  eq_of_snd (by decide +kernel)

private theorem outlivingChild_eq :
    openBlock .sample 1 .permissive (.newLocalSpan "job") (outlivingParent.1.spawn 0 1) =
      (outlivingChild.1, .ok 1) :=
  eq_of_snd (by decide +kernel)

private theorem outliving_sample :
    Run (Guarded NoReopening (TaskStep .sample)) .init
      [.openBlock 0 .permissive (.newEntrySpan "/" none none), .spawn 0 1,
        .openBlock 1 .permissive (.newLocalSpan "job"), .closeBlock 0 .permissive none,
        .closeBlock 1 .permissive none] ⟨outlivingEnd, [1, 0], []⟩ :=
  outliving_run outlivingParent_eq outlivingChild_eq

/-- A child task that outlives the block of its creator closes the segment of both. -/
theorem outliving_task_accounted :
    outlivingEnd.archived = [0] ∧ (outlivingEnd.context 0).segment.spans = [0, 1] ∧
      outlivingEnd.Accounted := by
  have hrun := outliving_sample
  have harchived : outlivingEnd.archived = [0] := by decide +kernel
  have hspans : (outlivingEnd.context 0).segment.spans = [0, 1] := by decide +kernel
  -- the world is not looked at any further
  generalize outlivingEnd = w at hrun harchived hspans ⊢
  exact ⟨harchived, hspans, (tasks_account_for_spans .sample hrun).1 rfl⟩

end Outliving

section Reopening

/-- A task opens an exit block that names no component. -/
private abbrev reopeningFirst : World :=
  (openBlock .sample 0 .permissive (.newExitSpan "GET" (some "peer:80") none none) .init).1

/-- Another task has inherited its stack when the block ends. -/
private abbrev reopeningClosed : World :=
  closeBlock .sample 0 0 .permissive none (reopeningFirst.spawn 0 1)

/-- It opens an exit block that names `Component.Unknown`. -/
private abbrev reopeningSecond : World :=
  (openBlock .sample 1 .permissive (.newExitSpan "GET" (some "peer:80") (some .Unknown) none)
    reopeningClosed).1

private abbrev reopeningLast : World :=
  closeBlock .sample 1 0 .permissive none reopeningSecond

private abbrev reopeningEnd : TaskState := ⟨reopeningLast, [1, 0], []⟩

private abbrev reopeningLabels : List TaskLabel :=
  [.openBlock 0 .permissive (.newExitSpan "GET" (some "peer:80") none none),
    .spawn 0 1,
    .closeBlock 0 .permissive none,
    .openBlock 1 .permissive (.newExitSpan "GET" (some "peer:80") (some .Unknown) none),
    .closeBlock 1 .permissive none]

private theorem reopeningFirst_eq :
    openBlock .sample 0 .permissive (.newExitSpan "GET" (some "peer:80") none none) .init =
      (reopeningFirst, .ok 0) :=
  eq_of_snd (by decide +kernel)

private theorem reopeningSecond_eq :
    openBlock .sample 1 .permissive (.newExitSpan "GET" (some "peer:80") (some .Unknown) none)
      reopeningClosed = (reopeningSecond, .ok 0) :=
  eq_of_snd (by decide +kernel)

private theorem reopening_run {first second : World}
    (hfirst : openBlock .sample 0 .permissive (.newExitSpan "GET" (some "peer:80") none none) .init =
      (first, .ok 0))
    (hsecond : openBlock .sample 1 .permissive
      (.newExitSpan "GET" (some "peer:80") (some .Unknown) none)
      (closeBlock .sample 0 0 .permissive none (first.spawn 0 1)) = (second, .ok 0)) :
    Run (TaskStep .sample) .init reopeningLabels
      ⟨closeBlock .sample 1 0 .permissive none second, [1, 0], []⟩ := by
  have hopen : TaskStep .sample .init
      (.openBlock 0 .permissive (.newExitSpan "GET" (some "peer:80") none none))
      ⟨first, [0], [(0, 0)]⟩ :=
    .openBlock (by decide) rfl hfirst
  have hspawn : TaskStep .sample ⟨first, [0], [(0, 0)]⟩ (.spawn 0 1)
      ⟨first.spawn 0 1, [1, 0], [(0, 0)]⟩ :=
    .spawn (by simp) (by simp)
  have hclose : TaskStep .sample ⟨first.spawn 0 1, [1, 0], [(0, 0)]⟩
      (.closeBlock 0 .permissive none)
      ⟨closeBlock .sample 0 0 .permissive none (first.spawn 0 1), [1, 0], []⟩ :=
    .closeBlock rfl
  have hreopen : TaskStep .sample
      ⟨closeBlock .sample 0 0 .permissive none (first.spawn 0 1), [1, 0], []⟩
      (.openBlock 1 .permissive (.newExitSpan "GET" (some "peer:80") (some .Unknown) none))
      ⟨second, [1, 0], [(1, 0)]⟩ :=
    .openBlock (by simp) rfl hsecond
  have hend : TaskStep .sample ⟨second, [1, 0], [(1, 0)]⟩ (.closeBlock 1 .permissive none)
      ⟨closeBlock .sample 1 0 .permissive none second, [1, 0], []⟩ :=
    .closeBlock rfl
  exact ((((Run.single hopen).snoc hspawn).snoc hclose).snoc hreopen).snoc hend

/-- Without the condition a span can be recorded twice and its segment archived twice. -/
theorem reopened_span_twice :
    ∃ labels s, Run (TaskStep .sample) .init labels s ∧ s.blocks = [] ∧ ¬ s.world.Accounted ∧
      (s.world.context 0).segment.spans = [0, 0] ∧ s.world.archived = [0, 0] := by
  have hspans : (reopeningEnd.world.context 0).segment.spans = [0, 0] := by decide +kernel
  have harchived : reopeningEnd.world.archived = [0, 0] := by decide +kernel
  refine ⟨reopeningLabels, reopeningEnd, reopening_run reopeningFirst_eq reopeningSecond_eq, rfl,
    fun haccounted => ?_, hspans, harchived⟩
  have hsize : 0 < reopeningEnd.world.spans.size := by decide +kernel
  have hreal : (reopeningEnd.world.span 0).cls ≠ .NoopSpan := by decide +kernel
  have hcount := (haccounted 0 hsize hreal).2
  have hcontext : (reopeningEnd.world.span 0).context = 0 := by decide +kernel
  rw [harchived, hcontext] at hcount
  cases hcount

end Reopening

end SkyWalking
