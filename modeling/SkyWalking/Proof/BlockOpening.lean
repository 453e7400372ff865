import SkyWalking.Trace.Block
import SkyWalking.Proof.LedgerRefinement
import SkyWalking.Proof.Nested

/-!
# The head of a block

Which span a block gets, as an equation between ledgers, and what happens to the stack. Under an open
span, and with carriers that can be read, asking for a span never raises.
-/

namespace SkyWalking

open World

theorem getContext_of_top (env : Env) {w : World} {task t : Nat} (sampled : Bool)
    (htop : (w.view task).getLast? = some t) :
    getContext env task sampled w = (w.spansGet task, (w.span t).context) := by
  simp [getContext, htop]

theorem ledger_getContext_of_empty (env : Env) {w : World} {task : Nat} (sampled : Bool)
    (hempty : w.view task = []) :
    (getContext env task sampled w).1.ledger = w.ledger.newContext (!sampled) ∧
      (getContext env task sampled w).2 = w.contexts.size := by
  have hcontexts : (w.spansGet task).contexts = w.contexts := spansGet_contexts w task
  unfold getContext
  simp only [hempty, List.getLast?_nil]
  cases sampled with
  | true =>
      refine ⟨?_, ?_⟩
      · rw [if_pos rfl, ledger_new, ledger_spansGet]
        rfl
      · simp only [if_true, SpanContext.new, hcontexts]
  | false =>
      refine ⟨?_, ?_⟩
      · rw [if_neg (by decide), ledger_newNoop, ledger_spansGet]
        rfl
      · simp only [Bool.false_eq_true, if_false, SpanContext.newNoop, hcontexts]

theorem getContext_spans (env : Env) (task : Nat) (sampled : Bool) (w : World) :
    (getContext env task sampled w).1.spans = w.spans := by
  unfold getContext
  dsimp only
  split
  · exact spansGet_spans w task
  · split
    · exact spansGet_spans w task
    · exact spansGet_spans w task

theorem Carrier.Readable.isSuppressed {carrier : Carrier} (h : carrier.Readable) :
    ∃ suppressed, carrier.isSuppressed = .ok suppressed := by
  have hvalid : ∃ valid, carrier.isValid = .ok valid := by
    rcases h with h | ⟨h, _⟩
    · exact ⟨false, h⟩
    · exact ⟨true, h⟩
  obtain ⟨valid, hvalid⟩ := hvalid
  unfold Carrier.isSuppressed
  split
  · exact ⟨false, rfl⟩
  · split
    · exact ⟨false, rfl⟩
    · exact ⟨!valid, by rw [hvalid]; rfl⟩

theorem isIgnored_ok (answers : Answers) {carrier : Option Carrier}
    (hread : ∀ c ∈ carrier, c.Readable) :
    ∃ ignored, SpanContext.isIgnored answers carrier = .ok ignored := by
  unfold SpanContext.isIgnored
  split
  · exact ⟨true, rfl⟩
  · cases carrier with
    | none => exact ⟨false, rfl⟩
    | some carrier => exact (hread carrier rfl).isSuppressed

theorem ignoreCheck_readable (answers : Answers) {carrier : Option Carrier} (w : World)
    (hread : ∀ c ∈ carrier, c.Readable) :
    SpanContext.ignoreCheck answers carrier w = (w, .ok none) ∨
    SpanContext.ignoreCheck answers carrier w =
      ((Span.newNoop w.contexts.size (SpanContext.newNoop w).1).1, .ok (some w.spans.size)) := by
  obtain ⟨ignored, hignored⟩ := isIgnored_ok answers hread
  unfold SpanContext.ignoreCheck
  rw [hignored]
  cases ignored with
  | false => exact Or.inl rfl
  | true => exact Or.inr rfl

theorem readable_none : ∀ c ∈ (none : Option Carrier), c.Readable := by simp

theorem extractReal_ok (env : Env) (span : Nat) {carrier : Carrier} (w : World)
    (hread : carrier.Readable) : (Span.extractReal env span carrier w).2 = .ok () := by
  unfold Span.extractReal
  dsimp only
  rcases hread with hvalid | ⟨hvalid, number, hnumber⟩
  · rw [hvalid]
  · rw [hvalid]
    simp only [SegmentRef.ofCarrier, hnumber, Except.map]
    split <;> rfl

section Returns

variable (env : Env) (task self : Nat) (answers : Answers) {w : World}
  (hopen : SpanContext.isFinished (w.view task).getLast? w = false)

include hopen

theorem newLocalSpan_ok (op : String) :
    ∃ span, (SpanContext.newLocalSpan env task self answers op w).2 = .ok span := by
  have hopen' := (isFinished_spansGet w task (w.view task).getLast?).trans hopen
  unfold SpanContext.newLocalSpan
  split
  · exact ⟨_, rfl⟩
  · rcases ignoreCheck_readable answers w readable_none with h | h <;> rw [h]
    · dsimp only [SpanContext.peek]
      rw [newSpan_of_not_finished env _ self _ .Span op none none hopen']
      exact ⟨_, rfl⟩
    · exact ⟨_, rfl⟩

theorem newEntrySpan_ok (op : String) {carrier : Option Nat} (inherit : Option Component)
    (hread : ∀ a ∈ carrier, (w.carriers.get a).Readable) :
    ∃ span, (SpanContext.newEntrySpan env task self answers op carrier inherit w).2 = .ok span := by
  have hopen' := (isFinished_spansGet w task (w.view task).getLast?).trans hopen
  have hread' : ∀ c ∈ carrier.map w.carriers.get, c.Readable := by
    intro c hc
    obtain ⟨a, ha, rfl⟩ := Option.mem_map.mp hc
    exact hread a ha
  unfold SpanContext.newEntrySpan
  split
  · exact ⟨_, rfl⟩
  rcases ignoreCheck_readable answers w hread' with h | h <;> rw [h]
  · dsimp only [SpanContext.peek]
    by_cases hreuse :
        SpanContext.reusesEntry (w.view task).getLast? inherit (w.spansGet task) = true
    · rw [if_pos hreuse]
      exact ⟨_, rfl⟩
    · rw [if_neg hreuse, newSpan_of_not_finished env _ self _ .EntrySpan op none none hopen']
      cases carrier with
      | none => exact ⟨_, rfl⟩
      | some a =>
          have hreadA := hread a rfl
          dsimp only
          rw [spansGet_carriers]
          rcases hreadA with hvalid | ⟨hvalid, hnumber⟩
          · rw [hvalid]
            exact ⟨_, rfl⟩
          · rw [hvalid]
            dsimp only
            rw [extractReal_ok env _ _ (Or.inr ⟨hvalid, hnumber⟩)]
            exact ⟨_, rfl⟩
  · exact ⟨_, rfl⟩

theorem newExitSpan_ok (op : String) (peer : Option String) (component inherit : Option Component) :
    ∃ span, (SpanContext.newExitSpan env task self answers op peer component inherit w).2 =
      .ok span := by
  have hopen' := (isFinished_spansGet w task (w.view task).getLast?).trans hopen
  unfold SpanContext.newExitSpan
  split
  · exact ⟨_, rfl⟩
  rcases ignoreCheck_readable answers w readable_none with h | h <;> rw [h]
  · dsimp only [SpanContext.peek]
    by_cases hreuse :
        SpanContext.reusesExit (w.view task).getLast? component (w.spansGet task) = true
    · rw [if_pos hreuse]
      cases inherit <;> exact ⟨_, rfl⟩
    · rw [if_neg hreuse, newSpan_of_not_finished env _ self _ .ExitSpan op peer component hopen']
      cases inherit <;> exact ⟨_, rfl⟩
  · exact ⟨_, rfl⟩

/-- With an open span on top, or none, and a readable carrier, every call returns a span. -/
theorem Call.run_ok {call : Call} (hread : ∀ a ∈ call.carrier, (w.carriers.get a).Readable) :
    ∃ span, (call.run env task self answers w).2 = .ok span := by
  cases call with
  | newLocalSpan op => exact newLocalSpan_ok env task self answers hopen op
  | newEntrySpan op carrier inherit =>
      exact newEntrySpan_ok env task self answers hopen op inherit hread
  | newExitSpan op peer component inherit =>
      exact newExitSpan_ok env task self answers hopen op peer component inherit

end Returns

/-- The span that a block of `task` gets, and the ledger when its body starts. -/
inductive Opened (task : Nat) (call : Call) (w : World) : Nat → Ledger → Prop where
  | rootNoop : w.view task = [] →
      Opened task call w w.spans.size
        (((w.ledger.newContext true).createNoop w.contexts.size).start w.spans.size)
  | rootSuppressed : w.view task = [] →
      Opened task call w w.spans.size
        ((((w.ledger.newContext false).newContext true).createNoop (w.contexts.size + 1)).start
          w.spans.size)
  | root : w.view task = [] →
      Opened task call w w.spans.size
        (((w.ledger.newContext false).create w.contexts.size (-1)).start w.spans.size)
  | noop (top : Nat) : (w.view task).getLast? = some top →
      (w.context (w.span top).context).noop = true →
      Opened task call w w.spans.size
        ((w.ledger.createNoop (w.span top).context).start w.spans.size)
  | suppressed (top : Nat) : (w.view task).getLast? = some top →
      (w.context (w.span top).context).noop = false →
      Opened task call w w.spans.size
        (((w.ledger.newContext true).createNoop w.contexts.size).start w.spans.size)
  | reused (top : Nat) : (w.view task).getLast? = some top →
      (w.context (w.span top).context).noop = false → call.reuses (w.span top) →
      Opened task call w top (w.ledger.start top)
  | created (top : Nat) : (w.view task).getLast? = some top →
      (w.context (w.span top).context).noop = false → (w.span top).depth ≠ 0 →
      Opened task call w w.spans.size
        ((w.ledger.create (w.span top).context (w.span top).sid).start w.spans.size)
  | detached (top : Nat) : (w.view task).getLast? = some top →
      (w.context (w.span top).context).noop = false → (w.span top).depth = 0 →
      Opened task call w w.spans.size
        (((w.ledger.newContext false).create w.contexts.size (-1)).start w.spans.size)

theorem openBlock_eq (env : Env) (task : Nat) (answers : BlockAnswers) (call : Call) {w w' : World}
    {span : Nat} (hopen : openBlock env task answers call w = (w', .ok span)) :
    ∃ w₁ self, getContext env task answers.sampled w = (w₁, self) ∧
      ∃ w₂, call.run env task self answers.toAnswers w₁ = (w₂, .ok span) ∧
        w' = Span.start task span w₂ := by
  unfold openBlock at hopen
  dsimp only at hopen
  split at hopen
  · cases hopen
  · next w₂ s hrun =>
    cases hopen
    exact ⟨_, _, rfl, w₂, hrun, rfl⟩

theorem Opened.of_empty (env : Env) {task : Nat} {answers : BlockAnswers} {call : Call}
    {w w' : World} {span : Nat} (hok : w.VarsOk) (hempty : w.view task = [])
    (hopen : openBlock env task answers call w = (w', .ok span)) :
    Opened task call w span w'.ledger := by
  obtain ⟨w₁, self, hget, w₂, hrun, rfl⟩ := openBlock_eq env task answers call hopen
  have hquiet := quiet_getContext env hok task answers.sampled
  obtain ⟨hledger, hself⟩ := ledger_getContext_of_empty env answers.sampled hempty
  rw [hget] at hledger hself hquiet
  simp only at hledger hself hquiet
  subst hself
  have hsize : w₁.spans.size = w.spans.size := by
    have h := congrArg (fun l => l.spans.size) hledger
    exact h
  have hcontexts : w₁.contexts.size = w.contexts.size + 1 := by
    have h := congrArg (fun l => l.contexts.size) hledger
    exact h
  have hcontext : (w₁.context w.contexts.size).noop = !answers.sampled := by
    have hnew := Ledger.context_newContext_size w.ledger !answers.sampled
    rw [← hledger] at hnew
    exact congrArg Ledger.Context.noop hnew
  have hview : w₁.view task = [] := (hquiet.view_eq task).trans hempty
  have heffect := Call.run_effect env task w.contexts.size answers.toAnswers w₁ call
  rw [hrun] at heffect
  rw [ledger_start]
  simp only at heffect
  cases heffect with
  | noop hnoop hl =>
      have hsampled : answers.sampled = false := by simpa [hcontext] using hnoop
      rw [hl, hledger, hsampled, hsize]
      exact .rootNoop hempty
  | suppressed hreal hl =>
      have hsampled : answers.sampled = true := by simpa [hcontext] using hreal
      rw [hl, hledger, hsampled, hsize, hcontexts]
      exact .rootSuppressed hempty
  | reused top hreal htop hreuse hl =>
      rw [hview] at htop
      cases htop
  | created hreal hfinished hl hout =>
      have hsampled : answers.sampled = true := by simpa [hcontext] using hreal
      rw [hl, hledger, hsampled, hout span rfl, hsize, hview]
      exact .root hempty
  | detached top hreal htop hdepth hl hout =>
      rw [hview] at htop
      cases htop

theorem Opened.of_top (env : Env) {task : Nat} {answers : BlockAnswers} {call : Call} {w w' : World}
    {span top : Nat} (hok : w.VarsOk) (htop : (w.view task).getLast? = some top)
    (hopen : openBlock env task answers call w = (w', .ok span)) :
    Opened task call w span w'.ledger := by
  obtain ⟨w₁, self, hget, w₂, hrun, rfl⟩ := openBlock_eq env task answers call hopen
  rw [getContext_of_top env answers.sampled htop] at hget
  cases hget
  have hview := (Quiet.spansGet hok task).view_eq task
  have hspan : ∀ s, (w.spansGet task).span s = w.span s := spansGet_span w task
  have hcontext : ∀ c, (w.spansGet task).context c = w.context c := by
    intro c
    simp only [World.context, spansGet_contexts]
  have heffect := Call.run_effect env task (w.span top).context answers.toAnswers
    (w.spansGet task) call
  rw [hrun] at heffect
  rw [ledger_start]
  simp only at heffect
  generalize hout : (Except.ok span : Except PyError Nat) = outcome at heffect
  cases heffect with
  | noop hnoop hl =>
      cases hout
      rw [hl, ledger_spansGet, spansGet_spans]
      exact .noop top htop (hcontext _ ▸ hnoop)
  | suppressed hreal hl =>
      cases hout
      rw [hl, ledger_spansGet, spansGet_spans, spansGet_contexts]
      exact .suppressed top htop (hcontext _ ▸ hreal)
  | failed error hl => cases hout
  | reused top' hreal htop' hreuse hl =>
      have hsame : top' = top := by
        rw [hview, htop] at htop'
        exact (Option.some.inj htop').symm
      cases hout
      rw [hsame] at hreuse ⊢
      rw [hl, ledger_spansGet]
      exact .reused top htop (hcontext _ ▸ hreal) (hspan _ ▸ hreuse)
  | created hreal hfinished hl hnew =>
      rw [hnew span hout.symm, hl, ledger_spansGet, spansGet_spans, hview, htop]
      simp only [parentSid, hspan]
      rw [hview, htop] at hfinished
      have hdepth : (w.span top).depth ≠ 0 := by
        simpa [SpanContext.isFinished, hspan] using hfinished
      exact .created top htop (hcontext _ ▸ hreal) hdepth
  | detached top' hreal htop' hdepth hl hnew =>
      rw [hnew span hout.symm, hl, ledger_spansGet, spansGet_spans, spansGet_contexts]
      have hsame : top' = top := by
        rw [hview, htop] at htop'
        exact (Option.some.inj htop').symm
      exact .detached top htop (hcontext _ ▸ hreal) (hsame ▸ hspan _ ▸ hdepth)

theorem Opened.of_openBlock (env : Env) {task : Nat} {answers : BlockAnswers} {call : Call}
    {w w' : World} {span : Nat} (hok : w.VarsOk)
    (hopen : openBlock env task answers call w = (w', .ok span)) :
    Opened task call w span w'.ledger := by
  cases htop : (w.view task).getLast? with
  | none => exact .of_empty env hok (List.getLast?_eq_none_iff.mp htop) hopen
  | some top => exact .of_top env hok htop hopen

theorem Opened.span_cases {task : Nat} {call : Call} {w : World} {span : Nat} {l : Ledger}
    (h : Opened task call w span l) :
    span = w.spans.size ∨ (w.view task).getLast? = some span := by
  cases h with
  | reused top htop => exact Or.inr htop
  | rootNoop => exact Or.inl rfl
  | rootSuppressed => exact Or.inl rfl
  | root => exact Or.inl rfl
  | noop => exact Or.inl rfl
  | suppressed => exact Or.inl rfl
  | created => exact Or.inl rfl
  | detached => exact Or.inl rfl

/-- A block that gets a span which existed before has reused it. -/
theorem Opened.reused_of_lt {task : Nat} {call : Call} {w : World} {span : Nat} {l : Ledger}
    (h : Opened task call w span l) (hlt : span < w.spans.size) :
    l = w.ledger.start span ∧ call.reuses (w.span span) := by
  cases h with
  | reused _ _ _ hreuse => exact ⟨rfl, hreuse⟩
  | rootNoop => exact absurd hlt (Nat.lt_irrefl _)
  | rootSuppressed => exact absurd hlt (Nat.lt_irrefl _)
  | root => exact absurd hlt (Nat.lt_irrefl _)
  | noop => exact absurd hlt (Nat.lt_irrefl _)
  | suppressed => exact absurd hlt (Nat.lt_irrefl _)
  | created => exact absurd hlt (Nat.lt_irrefl _)
  | detached => exact absurd hlt (Nat.lt_irrefl _)

theorem Opened.depth_new {task : Nat} {call : Call} {w : World} {span : Nat} {l : Ledger}
    (h : Opened task call w span l) (hnew : span = w.spans.size)
    (halloc : ∀ s ∈ w.view task, s < w.spans.size) : (l.span span).depth = 1 := by
  have hnoop := fun (l : Ledger) c => congrArg Ledger.Span.depth (l.span_createNoop_start c)
  have hreal := fun (l : Ledger) c pid => congrArg Ledger.Span.depth (l.span_create_start c pid)
  cases h with
  | rootNoop => exact hnoop (w.ledger.newContext true) _
  | rootSuppressed => exact hnoop ((w.ledger.newContext false).newContext true) _
  | root => exact hreal (w.ledger.newContext false) _ _
  | noop => exact hnoop w.ledger _
  | suppressed => exact hnoop (w.ledger.newContext true) _
  | reused _ htop =>
      have hlt := halloc span (List.mem_of_getLast? htop)
      omega
  | created => exact hreal w.ledger _ _
  | detached => exact hreal (w.ledger.newContext false) _ _

theorem Opened.spans_size_le {task : Nat} {call : Call} {w : World} {span : Nat} {l : Ledger}
    (h : Opened task call w span l) : w.spans.size ≤ l.spans.size := by
  cases h with
  | reused => rw [Ledger.spans_size_start]; rfl
  | rootNoop => rw [Ledger.spans_size_start]; exact Nat.le_succ _
  | rootSuppressed => rw [Ledger.spans_size_start]; exact Nat.le_succ _
  | root => rw [Ledger.spans_size_start]; exact Nat.le_succ _
  | noop => rw [Ledger.spans_size_start]; exact Nat.le_succ _
  | suppressed => rw [Ledger.spans_size_start]; exact Nat.le_succ _
  | created => rw [Ledger.spans_size_start]; exact Nat.le_succ _
  | detached => rw [Ledger.spans_size_start]; exact Nat.le_succ _

theorem Opened.archived_eq {task : Nat} {call : Call} {w : World} {span : Nat} {l : Ledger}
    (h : Opened task call w span l) : l.archived = w.archived := by
  cases h <;> exact Ledger.archived_start _ _

theorem carriers_start (task s : Nat) (w : World) :
    (Span.start task s w).carriers = w.carriers := by
  have hentry : ∀ w' : World, (if (w'.span s).cls = .EntrySpan then w'.modifySpan s Span.restarted
      else w').carriers = w'.carriers := by
    intro w'
    split <;> rfl
  unfold Span.start
  dsimp only
  rw [hentry]
  split
  · obtain ⟨primary, heq⟩ := SpanContext.start_eq task
      (((w.modifySpan s Span.entered).modifySpan s (Span.startedAt
        (w.modifySpan s Span.entered).now)).span s).context s
      ((w.modifySpan s Span.entered).modifySpan s (Span.startedAt
        (w.modifySpan s Span.entered).now))
    rw [heq]
    rfl
  · rfl

/-- The task that opens the block sees its span on top afterwards, the others see what they saw. -/
theorem openBlock_view (env : Env) {task : Nat} {answers : BlockAnswers} {call : Call}
    {w w' : World} {span : Nat} (hok : w.VarsOk) (halloc : ∀ s ∈ w.view task, s < w.spans.size)
    (hopen : openBlock env task answers call w = (w', .ok span)) :
    w'.VarsOk ∧ w'.carriers = w.carriers ∧
      ∀ t, w'.view t = if t = task then pushed span (w.view task) else w.view t := by
  have hopened := Opened.of_openBlock env hok hopen
  obtain ⟨w₁, self, hget, w₂, hrun, rfl⟩ := openBlock_eq env task answers call hopen
  have hquiet₁ := quiet_getContext env hok task answers.sampled
  rw [hget] at hquiet₁
  have hquiet₂ := Call.run_quiet env hquiet₁.varsOk task self answers.toAnswers call
  rw [hrun] at hquiet₂
  have hquiet := hquiet₁.trans hquiet₂
  refine ⟨hquiet.varsOk.start task span, (carriers_start task span w₂).trans hquiet.carriers_eq, ?_⟩
  intro t
  rw [view_start hquiet.varsOk, hquiet.view_eq, hquiet.view_eq]
  by_cases hdepth : (w₂.span span).depth = 0
  · simp only [hdepth, and_true]
  · -- only a span that is on the stack already can have been entered before
    have hmem : span ∈ w.view task := by
      rcases hopened.span_cases with hnew | htop
      · have hone := hopened.depth_new hnew halloc
        rw [ledger_start, Ledger.span_start, if_pos rfl] at hone
        simp only [Ledger.Span.enter, ledger_span, Span.toLedger] at hone
        omega
      · exact List.mem_of_getLast? htop
    rw [if_neg (fun h => hdepth h.2), pushed, if_pos hmem]
    split
    · next heq => rw [heq]
    · rfl

end SkyWalking
