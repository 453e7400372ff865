import SkyWalking.Proof.LedgerLemmas

/-!
# What a nested execution does to a ledger

`Nested c created closed l l'` says everything about the bookkeeping inside a block whose span belongs to
the context `c`: only `c` and objects that did not exist before are touched, the numbers of `c` go to
`created` one after the other, and `closed` is added to its record. It composes along sequences, and
there is one lemma for each way in which a block can get its span.
-/

namespace SkyWalking.Ledger

section New

variable (l : Ledger) (c : Nat)

theorem span_create_start (pid : Int) :
    ((l.create c pid).start l.spans.size).span l.spans.size =
      ⟨false, c, 1, (l.context c).sid + 1, pid⟩ := by
  rw [span_start, if_pos rfl, span_create_size]
  rfl

theorem span_createNoop_start :
    ((l.createNoop c).start l.spans.size).span l.spans.size = ⟨true, c, 1, -1, -1⟩ := by
  rw [span_start, if_pos rfl, span_createNoop_size]
  rfl

theorem context_create_start (pid : Int) :
    ((l.create c pid).start l.spans.size).context c = (l.context c).next.opened := by
  rw [context_start, span_create_size, if_pos ⟨rfl, rfl⟩, context_create, if_pos rfl]

theorem context_createNoop_start :
    ((l.createNoop c).start l.spans.size).context c = (l.context c).opened := by
  rw [context_start, span_createNoop_size, if_pos ⟨rfl, rfl⟩]
  rfl

end New

structure Nested (c : Nat) (created : List (Nat × Option Nat)) (closed : List Nat)
    (l l' : Ledger) : Prop where
  spans_size_le : l.spans.size ≤ l'.spans.size
  contexts_size_le : l.contexts.size ≤ l'.contexts.size
  span_eq : ∀ s < l.spans.size, l'.span s = l.span s
  context_eq : ∀ c' < l.contexts.size, c' ≠ c → l'.context c' = l.context c'
  context_self : l'.context c =
    { l.context c with
      sid := (l.context c).sid + created.length
      spans := (l.context c).spans ++ closed }
  archived_eq : l'.archived = l.archived
  noop_nil : (l.context c).noop = true → created = []
  created_lt : ∀ p ∈ created, l.spans.size ≤ p.1 ∧ p.1 < l'.spans.size
  sorted : (created.map Prod.fst).Pairwise (· < ·)
  created_real : ∀ p ∈ created, (l'.span p.1).noop = false ∧ (l'.span p.1).context = c
  complete : ∀ s, l.spans.size ≤ s → s < l'.spans.size → (l'.span s).noop = false →
    s ∈ created.map Prod.fst
  sids : created.map (fun p => (l'.span p.1).sid) =
    (List.range created.length).map fun i : Nat => (l.context c).sid + 1 + i
  pids : ∀ p ∈ created, ∃ e < l'.spans.size, p.2 = some e ∧ 0 ≤ (l'.span e).sid ∧
    (l'.span p.1).pid = (l'.span e).sid
  closed_perm : closed.Perm (created.map Prod.fst)

namespace Nested

variable {c : Nat} {l l' l'' : Ledger} {created created' : List (Nat × Option Nat)}
  {closed closed' : List Nat}

theorem refl (c : Nat) (l : Ledger) : Nested c [] [] l l where
  spans_size_le := le_refl _
  contexts_size_le := le_refl _
  span_eq _ _ := rfl
  context_eq _ _ _ := rfl
  context_self := by simp
  archived_eq := rfl
  noop_nil _ := rfl
  created_lt _ hp := by simp at hp
  sorted := List.Pairwise.nil
  created_real _ hp := by simp at hp
  complete s hge hlt := absurd hlt (Nat.not_lt.mpr hge)
  sids := rfl
  pids _ hp := by simp at hp
  closed_perm := List.Perm.refl _

theorem noop_eq (h : Nested c created closed l l') : (l'.context c).noop = (l.context c).noop := by
  rw [h.context_self]

theorem nspans_eq (h : Nested c created closed l l') :
    (l'.context c).nspans = (l.context c).nspans := by
  rw [h.context_self]

theorem closed_nil (h : Nested c created closed l l') (hnoop : (l.context c).noop = true) :
    closed = [] := by
  have hperm := h.closed_perm
  rw [h.noop_nil hnoop] at hperm
  exact List.perm_nil.mp hperm

theorem trans (h : Nested c created closed l l') (h' : Nested c created' closed' l' l'') :
    Nested c (created ++ created') (closed ++ closed') l l'' where
  spans_size_le := h.spans_size_le.trans h'.spans_size_le
  contexts_size_le := h.contexts_size_le.trans h'.contexts_size_le
  span_eq s hs := by
    rw [h'.span_eq s (hs.trans_le h.spans_size_le), h.span_eq s hs]
  context_eq c' hc' hne := by
    rw [h'.context_eq c' (hc'.trans_le h.contexts_size_le) hne, h.context_eq c' hc' hne]
  context_self := by
    rw [h'.context_self, h.context_self]
    simp only [List.length_append, List.append_assoc]
    push_cast
    rw [add_assoc]
  archived_eq := h'.archived_eq.trans h.archived_eq
  noop_nil hnoop := by
    rw [h.noop_nil hnoop, h'.noop_nil (h.noop_eq.trans hnoop)]
    rfl
  created_lt p hp := by
    rcases List.mem_append.mp hp with hp | hp
    · exact ⟨(h.created_lt p hp).1, (h.created_lt p hp).2.trans_le h'.spans_size_le⟩
    · exact ⟨h.spans_size_le.trans (h'.created_lt p hp).1, (h'.created_lt p hp).2⟩
  sorted := by
    rw [List.map_append]
    refine List.pairwise_append.mpr ⟨h.sorted, h'.sorted, ?_⟩
    intro s hs s' hs'
    obtain ⟨p, hp, rfl⟩ := List.mem_map.mp hs
    obtain ⟨p', hp', rfl⟩ := List.mem_map.mp hs'
    exact (h.created_lt p hp).2.trans_le (h'.created_lt p' hp').1
  created_real p hp := by
    rcases List.mem_append.mp hp with hp | hp
    · rw [h'.span_eq p.1 (h.created_lt p hp).2]
      exact h.created_real p hp
    · exact h'.created_real p hp
  complete s hge hlt hreal := by
    rw [List.map_append, List.mem_append]
    rcases Nat.lt_or_ge s l'.spans.size with hmid | hmid
    · rw [h'.span_eq s hmid] at hreal
      exact Or.inl (h.complete s hge hmid hreal)
    · exact Or.inr (h'.complete s hmid hlt hreal)
  sids := by
    have hfirst : created.map (fun p => (l''.span p.1).sid) =
        created.map fun p => (l'.span p.1).sid := by
      refine List.map_congr_left fun p hp => ?_
      rw [h'.span_eq p.1 (h.created_lt p hp).2]
    rw [List.map_append, hfirst, h.sids, h'.sids, h.context_self, List.length_append,
      List.range_add, List.map_append, List.map_map]
    congr 1
    refine List.map_congr_left fun i _ => ?_
    simp only [Function.comp_apply]
    push_cast
    omega
  pids p hp := by
    rcases List.mem_append.mp hp with hp | hp
    · obtain ⟨e, he, hp2, hpid⟩ := h.pids p hp
      refine ⟨e, he.trans_le h'.spans_size_le, hp2, ?_⟩
      rw [h'.span_eq p.1 (h.created_lt p hp).2, h'.span_eq e he]
      exact hpid
    · exact h'.pids p hp
  closed_perm := by
    rw [List.map_append]
    exact h.closed_perm.append h'.closed_perm

/-- Nothing real happens: only objects that did not exist before, and all new spans noop. -/
theorem of_noop (hspans : l.spans.size ≤ l'.spans.size)
    (hcontexts : l.contexts.size ≤ l'.contexts.size) (hspan : ∀ s < l.spans.size, l'.span s = l.span s)
    (hcontext : ∀ c' < l.contexts.size, l'.context c' = l.context c') (hc : c < l.contexts.size)
    (harchived : l'.archived = l.archived)
    (hnew : ∀ s, l.spans.size ≤ s → s < l'.spans.size → (l'.span s).noop = true) :
    Nested c [] [] l l' where
  spans_size_le := hspans
  contexts_size_le := hcontexts
  span_eq := hspan
  context_eq c' hc' _ := hcontext c' hc'
  context_self := by
    rw [hcontext c hc]
    simp
  archived_eq := harchived
  noop_nil _ := rfl
  created_lt _ hp := by simp at hp
  sorted := List.Pairwise.nil
  created_real _ hp := by simp at hp
  complete s hge hlt hreal := by
    rw [hnew s hge hlt] at hreal
    cases hreal
  sids := rfl
  pids _ hp := by simp at hp
  closed_perm := List.Perm.refl _

section Block

variable {l₂ : Ledger} {t : Nat}

/-- A block that reuses the span of the block around it. -/
theorem reused_block (ht : t < l.spans.size) (hdepth : 0 < (l.span t).depth)
    (hbody : Nested c created closed (l.start t) l₂) : Nested c created closed l (l₂.stop t) := by
  have hsize : (l.start t).spans.size = l.spans.size := l.spans_size_start t
  have hsizeC : (l.start t).contexts.size = l.contexts.size := l.contexts_size_start t
  have htop : l₂.span t = (l.span t).enter := by
    rw [hbody.span_eq t (hsize ▸ ht), span_start, if_pos rfl]
  have hopen : ∀ c', (l.start t).context c' = l.context c' := by
    intro c'
    rw [context_start, if_neg (by omega)]
  have hclose : ∀ c', (l₂.stop t).context c' = l₂.context c' := by
    intro c'
    rw [context_stop, htop, if_neg (by simp only [Span.enter]; omega)]
  have hnew : ∀ s, l.spans.size ≤ s → (l₂.stop t).span s = l₂.span s := by
    intro s hs
    exact span_stop_of_ne _ (by omega)
  have hge : ∀ p ∈ created, l.spans.size ≤ p.1 := fun p hp => hsize ▸ (hbody.created_lt p hp).1
  constructor
  · rw [spans_size_stop, ← hsize]
    exact hbody.spans_size_le
  · rw [contexts_size_stop, ← hsizeC]
    exact hbody.contexts_size_le
  · intro s hs
    rw [span_stop, hbody.span_eq s (hsize ▸ hs), span_start]
    split
    · simp [Span.enter, Span.leave]
    · rfl
  · intro c' hc' hne
    rw [hclose, hbody.context_eq c' (hsizeC ▸ hc') hne, hopen]
  · rw [hclose, hbody.context_self, hopen]
  · rw [archived_stop, htop, if_neg (by simp only [Span.enter]; omega), hbody.archived_eq,
      archived_start]
  · intro hnoop
    exact hbody.noop_nil (by rwa [hopen])
  · intro p hp
    rw [spans_size_stop]
    exact ⟨hge p hp, (hbody.created_lt p hp).2⟩
  · exact hbody.sorted
  · intro p hp
    rw [hnew p.1 (hge p hp)]
    exact hbody.created_real p hp
  · intro s hs hlt hreal
    rw [hnew s hs] at hreal
    rw [spans_size_stop] at hlt
    exact hbody.complete s (hsize ▸ hs) hlt hreal
  · simp only [sid_span_stop]
    rw [hbody.sids, hopen]
  · intro p hp
    obtain ⟨e, he, hp2, hpid⟩ := hbody.pids p hp
    refine ⟨e, by rwa [spans_size_stop], hp2, ?_⟩
    rw [hnew p.1 (hge p hp), sid_span_stop]
    exact hpid
  · exact hbody.closed_perm

/-! The span that a block has created comes before those of its body, and is closed after them. -/

section Own

variable {root : Nat} {parent : Option Nat}

theorem root_lt (hbody : Nested c created closed l l₂) (hsize : l.spans.size = root + 1) :
    ∀ p ∈ created, root < p.1 := by
  intro p hp
  have hge := (hbody.created_lt p hp).1
  omega

theorem created_lt_cons (hbody : Nested c created closed l l₂) (hsize : l.spans.size = root + 1) :
    ∀ p ∈ (root, parent) :: created, root ≤ p.1 ∧ p.1 < (l₂.stop root).spans.size := by
  intro p hp
  have hle := hbody.spans_size_le
  rw [spans_size_stop]
  rcases List.mem_cons.mp hp with rfl | hp
  · exact ⟨le_refl _, by omega⟩
  · exact ⟨(hbody.root_lt hsize p hp).le, (hbody.created_lt p hp).2⟩

theorem sorted_cons (hbody : Nested c created closed l l₂) (hsize : l.spans.size = root + 1) :
    (((root, parent) :: created).map Prod.fst).Pairwise (· < ·) := by
  rw [List.map_cons, List.pairwise_cons]
  refine ⟨?_, hbody.sorted⟩
  intro s hs
  obtain ⟨p, hp, rfl⟩ := List.mem_map.mp hs
  exact hbody.root_lt hsize p hp

theorem created_real_cons (hbody : Nested c created closed l l₂) (hsize : l.spans.size = root + 1)
    (hself : ((l₂.stop root).span root).noop = false ∧ ((l₂.stop root).span root).context = c) :
    ∀ p ∈ (root, parent) :: created,
      ((l₂.stop root).span p.1).noop = false ∧ ((l₂.stop root).span p.1).context = c := by
  intro p hp
  rcases List.mem_cons.mp hp with rfl | hp
  · exact hself
  · rw [span_stop_of_ne _ (hbody.root_lt hsize p hp).ne']
    exact hbody.created_real p hp

theorem complete_cons (hbody : Nested c created closed l l₂) (hsize : l.spans.size = root + 1) :
    ∀ s, root ≤ s → s < (l₂.stop root).spans.size → ((l₂.stop root).span s).noop = false →
      s ∈ ((root, parent) :: created).map Prod.fst := by
  intro s hs hlt hspan
  rw [spans_size_stop] at hlt
  rcases hs.eq_or_lt with rfl | hs
  · simp
  · rw [span_stop_of_ne _ hs.ne'] at hspan
    exact List.mem_cons_of_mem _ (hbody.complete s (by omega) hlt hspan)

theorem sids_cons (hbody : Nested c created closed l l₂)
    (hself : ((l₂.stop root).span root).sid = (l.context c).sid) :
    ((root, parent) :: created).map (fun p => ((l₂.stop root).span p.1).sid) =
      (List.range ((root, parent) :: created).length).map fun i : Nat => (l.context c).sid + i := by
  have hrest : created.map (fun p => ((l₂.stop root).span p.1).sid) =
      created.map fun p => (l₂.span p.1).sid :=
    List.map_congr_left fun p _ => l₂.sid_span_stop root p.1
  rw [List.map_cons, hrest, hbody.sids, hself, List.length_cons, List.range_succ_eq_map,
    List.map_cons, List.map_map]
  congr 1
  · simp
  · refine List.map_congr_left fun i _ => ?_
    simp only [Function.comp_apply]
    push_cast
    omega

theorem closed_perm_cons (hbody : Nested c created closed l l₂) :
    (closed ++ [root]).Perm (((root, parent) :: created).map Prod.fst) := by
  rw [List.map_cons]
  exact List.perm_append_singleton _ _ |>.trans (hbody.closed_perm.cons _)

end Own

/-- A block that creates a span in the context of the block around it. -/
theorem created_block (ht : t < l.spans.size)
    (hreal : (l.context c).noop = false) (hcount : 0 < (l.context c).nspans)
    (hnonneg : 0 ≤ (l.span t).sid)
    (hbody : Nested c created closed ((l.create c (l.span t).sid).start l.spans.size) l₂) :
    Nested c ((l.spans.size, some t) :: created) (closed ++ [l.spans.size]) l
      (l₂.stop l.spans.size) := by
  have hopen : ∀ c', ((l.create c (l.span t).sid).start l.spans.size).context c' =
      if c' = c then (l.context c').next.opened else l.context c' := by
    intro c'
    rw [context_start, span_create_size, context_create]
    by_cases heq : c' = c <;> simp [heq]
  have hsize : ((l.create c (l.span t).sid).start l.spans.size).spans.size = l.spans.size + 1 :=
    spans_size_start _ _
  have hsizeC : ((l.create c (l.span t).sid).start l.spans.size).contexts.size =
      l.contexts.size := contexts_size_start _ _
  have hself : l₂.span l.spans.size = ⟨false, c, 1, (l.context c).sid + 1, (l.span t).sid⟩ := by
    rw [hbody.span_eq _ (by omega), span_create_start]
  have hcontext : l₂.context c =
      { l.context c with
        nspans := (l.context c).nspans + 1
        sid := (l.context c).sid + 1 + created.length
        spans := (l.context c).spans ++ closed } := by
    rw [hbody.context_self, hopen, if_pos rfl]
    rfl
  have hclose : ∀ c', (l₂.stop l.spans.size).context c' =
      if c' = c then (l₂.context c').closed l.spans.size else l₂.context c' := by
    intro c'
    rw [context_stop, hself]
    simp
  have hlast : (l₂.stop l.spans.size).span l.spans.size =
      ⟨false, c, 0, (l.context c).sid + 1, (l.span t).sid⟩ := by
    rw [span_stop, if_pos rfl, hself]
    rfl
  have hle := hbody.spans_size_le
  have htop : l₂.span t = l.span t := by
    rw [hbody.span_eq t (by omega), span_start, if_neg (by omega), span_create_of_lt l c _ ht]
  constructor
  · rw [spans_size_stop]
    omega
  · rw [contexts_size_stop]
    exact hsizeC ▸ hbody.contexts_size_le
  · intro s hs
    rw [span_stop_of_ne _ (by omega), hbody.span_eq s (by omega), span_start, if_neg (by omega),
      span_create_of_lt l c _ hs]
  · intro c' hc' hne
    rw [hclose, if_neg hne, hbody.context_eq c' (hsizeC ▸ hc') hne, hopen, if_neg hne]
  · rw [hclose, if_pos rfl, hcontext]
    simp only [Context.closed, hreal, Bool.false_eq_true, if_false, List.length_cons,
      List.append_assoc, Context.mk.injEq, true_and, and_true]
    push_cast
    omega
  · rw [archived_stop, hself]
    simp only [hcontext]
    rw [if_neg (by omega), hbody.archived_eq, archived_start]
    rfl
  · intro hnoop
    rw [hreal] at hnoop
    cases hnoop
  · exact hbody.created_lt_cons hsize
  · exact hbody.sorted_cons hsize
  · apply hbody.created_real_cons hsize
    rw [hlast]
    exact ⟨rfl, rfl⟩
  · exact hbody.complete_cons hsize
  · rw [hbody.sids_cons]
    · rw [hopen, if_pos rfl]
      rfl
    · rw [hlast, hopen, if_pos rfl]
      rfl
  · intro p hp
    rcases List.mem_cons.mp hp with rfl | hp
    · refine ⟨t, by rw [spans_size_stop]; omega, rfl, ?_⟩
      rw [hlast, sid_span_stop, htop]
      exact ⟨hnonneg, rfl⟩
    · obtain ⟨e, he, hp2, hpid⟩ := hbody.pids p hp
      refine ⟨e, by rwa [spans_size_stop], hp2, ?_⟩
      rw [span_stop_of_ne _ (hbody.root_lt hsize p hp).ne', sid_span_stop]
      exact hpid
  · exact hbody.closed_perm_cons

theorem closed_opened_of_noop {context : Context} (hnoop : context.noop = true) (s : Nat) :
    context.opened.closed s = context := by
  have hkept : context.opened.noop = true := hnoop
  rw [Context.closed, if_pos hkept]
  simp only [Context.opened, add_sub_cancel_right]

/-- A noop span in a context that exists: the counter goes up and down, nothing else happens. -/
theorem noop_block (hc : c < l.contexts.size) (hnoop : (l.context c).noop = true)
    (hbody : Nested c created closed ((l.createNoop c).start l.spans.size) l₂) :
    Nested c created closed l (l₂.stop l.spans.size) := by
  have hnew : (l.createNoop c).span l.spans.size = ⟨true, c, 0, -1, -1⟩ :=
    l.span_createNoop_size c
  have hopen : ∀ c', ((l.createNoop c).start l.spans.size).context c' =
      if c' = c then (l.context c').opened else l.context c' := by
    intro c'
    rw [context_start, hnew]
    by_cases heq : c' = c
    · simp only [heq, and_self, if_true]
      rfl
    · simp only [heq, and_false, if_false]
      rfl
  have hsize : ((l.createNoop c).start l.spans.size).spans.size = l.spans.size + 1 :=
    spans_size_start _ _
  have hsizeC : ((l.createNoop c).start l.spans.size).contexts.size = l.contexts.size :=
    contexts_size_start _ _
  have hnoopOpen : (((l.createNoop c).start l.spans.size).context c).noop = true := by
    rw [hopen, if_pos rfl]
    exact hnoop
  have hself : l₂.span l.spans.size = ⟨true, c, 1, -1, -1⟩ := by
    rw [hbody.span_eq _ (by omega), span_createNoop_start]
  have hcreated := hbody.noop_nil hnoopOpen
  have hclosed := hbody.closed_nil hnoopOpen
  have hcontext : l₂.context c = (l.context c).opened := by
    rw [hbody.context_self, hopen, if_pos rfl, hcreated, hclosed]
    simp
  have hle := hbody.spans_size_le
  rw [hcreated, hclosed]
  refine of_noop ?_ ?_ ?_ ?_ hc ?_ ?_
  · rw [spans_size_stop]
    omega
  · rw [contexts_size_stop]
    exact hsizeC ▸ hbody.contexts_size_le
  · intro s hs
    rw [span_stop, if_neg (by omega), hbody.span_eq s (by omega), span_start, if_neg (by omega),
      span_createNoop_of_lt l c hs]
  · intro c' hc'
    rw [context_stop, hself]
    by_cases heq : c' = c
    · rw [if_pos ⟨rfl, heq⟩, heq, hcontext]
      exact closed_opened_of_noop hnoop _
    · rw [if_neg (fun h => heq h.2), hbody.context_eq c' (hsizeC ▸ hc') heq, hopen, if_neg heq]
  · rw [archived_stop, hself, hcontext]
    simp only [Context.opened, hnoop, Bool.true_eq_false, false_and, and_false, if_false]
    rw [hbody.archived_eq, archived_start]
    rfl
  · intro s hs hlt
    rw [spans_size_stop] at hlt
    rw [span_stop]
    rcases hs.eq_or_lt with rfl | hs
    · rw [if_pos rfl, hself]
      rfl
    · rw [if_neg (by omega)]
      by_contra hreal
      have hmem := hbody.complete s (by omega) hlt (by simpa using hreal)
      rw [hcreated] at hmem
      simp at hmem

/-- A block that is ignored, or meets a full queue, is a noop block in a context of its own. -/
theorem suppressed_block (hc : c < l.contexts.size)
    (hbody : Nested l.contexts.size created closed
      (((l.newContext true).createNoop l.contexts.size).start l.spans.size) l₂) :
    Nested c created closed l (l₂.stop l.spans.size) := by
  have hself : ((l.newContext true).context l.contexts.size).noop = true := by
    rw [context_newContext_size]
  have hblock : Nested l.contexts.size created closed (l.newContext true) (l₂.stop l.spans.size) :=
    noop_block (l := l.newContext true) (Nat.lt_succ_self _) hself hbody
  have hcreated := hblock.noop_nil hself
  rw [hcreated, hblock.closed_nil hself]
  refine of_noop hblock.spans_size_le ((Nat.le_succ _).trans hblock.contexts_size_le) hblock.span_eq
    ?_ hc hblock.archived_eq ?_
  · intro c' hc'
    rw [hblock.context_eq c' (Nat.lt_succ_of_lt hc') hc'.ne, context_newContext_of_lt l true hc']
  · intro s hs hlt
    by_contra hreal
    have hmem := hblock.complete s hs hlt (by simpa using hreal)
    rw [hcreated] at hmem
    simp at hmem

end Block

end Nested

/-- What is known about the span of the innermost block. -/
structure Top (l : Ledger) (t : Nat) : Prop where
  lt : t < l.spans.size
  depth_pos : 0 < (l.span t).depth
  context_lt : (l.span t).context < l.contexts.size
  noop_eq : (l.span t).noop = (l.context (l.span t).context).noop
  nspans_pos : 0 < (l.context (l.span t).context).nspans
  sid_nonneg : (l.span t).noop = false → 0 ≤ (l.span t).sid
  last_nonneg : (l.span t).noop = false → 0 ≤ (l.context (l.span t).context).sid

theorem Top.nested {l l' : Ledger} {t : Nat} {created : List (Nat × Option Nat)} {closed : List Nat}
    (htop : l.Top t) (h : Nested (l.span t).context created closed l l') : l'.Top t := by
  have hspan := h.span_eq t htop.lt
  constructor
  · exact htop.lt.trans_le h.spans_size_le
  · rw [hspan]
    exact htop.depth_pos
  · rw [hspan]
    exact htop.context_lt.trans_le h.contexts_size_le
  · rw [hspan, h.noop_eq]
    exact htop.noop_eq
  · rw [hspan, h.nspans_eq]
    exact htop.nspans_pos
  · rw [hspan]
    exact htop.sid_nonneg
  · rw [hspan, h.context_self]
    intro hreal
    have hge := htop.last_nonneg hreal
    simp only
    omega

theorem Top.reused {l : Ledger} {t : Nat} (htop : l.Top t) : (l.start t).Top t := by
  have hspan : (l.start t).span t = (l.span t).enter := by
    rw [span_start, if_pos rfl]
  have hcontext : ∀ c, (l.start t).context c = l.context c := by
    intro c
    have hpos := htop.depth_pos
    rw [context_start, if_neg (by omega)]
  have hpos := htop.depth_pos
  constructor
  · rw [spans_size_start]
    exact htop.lt
  · rw [hspan]
    simp only [Span.enter]
    omega
  · rw [hspan, contexts_size_start]
    exact htop.context_lt
  · rw [hspan, hcontext]
    exact htop.noop_eq
  · rw [hspan, hcontext]
    exact htop.nspans_pos
  · rw [hspan]
    exact htop.sid_nonneg
  · rw [hspan, hcontext]
    exact htop.last_nonneg

section New

variable {l : Ledger} {c : Nat}

theorem Top.created (pid : Int) (hc : c < l.contexts.size) (hreal : (l.context c).noop = false)
    (hcount : 0 ≤ (l.context c).nspans) (hsid : -1 ≤ (l.context c).sid) :
    ((l.create c pid).start l.spans.size).Top l.spans.size := by
  constructor
  · rw [spans_size_start]
    exact Nat.lt_succ_self _
  · rw [span_create_start]
    exact Int.one_pos
  · rw [span_create_start, contexts_size_start]
    exact hc
  · rw [span_create_start, context_create_start]
    exact hreal.symm
  · rw [span_create_start, context_create_start]
    simp only [Context.next, Context.opened]
    omega
  · rw [span_create_start]
    intro _
    simp only
    omega
  · rw [span_create_start, context_create_start]
    intro _
    simp only [Context.next, Context.opened]
    omega

theorem Top.noop (hc : c < l.contexts.size) (hnoop : (l.context c).noop = true)
    (hcount : 0 ≤ (l.context c).nspans) : ((l.createNoop c).start l.spans.size).Top l.spans.size := by
  constructor
  · rw [spans_size_start]
    exact Nat.lt_succ_self _
  · rw [span_createNoop_start]
    exact Int.one_pos
  · rw [span_createNoop_start, contexts_size_start]
    exact hc
  · rw [span_createNoop_start, context_createNoop_start]
    exact hnoop.symm
  · rw [span_createNoop_start, context_createNoop_start]
    simp only [Context.opened]
    omega
  · rw [span_createNoop_start]
    intro hreal
    cases hreal
  · rw [span_createNoop_start]
    intro hreal
    cases hreal

end New

/-- What an outermost block with a real span does to a ledger. -/
structure Rooted (root : Nat) (created : List (Nat × Option Nat)) (closed : List Nat)
    (l l' : Ledger) : Prop where
  context_new : l.contexts.size ≤ (l'.span root).context
  span_eq : ∀ s < l.spans.size, l'.span s = l.span s
  context_eq : ∀ c < l.contexts.size, l'.context c = l.context c
  archived_eq : l'.archived = l.archived ++ [(l'.span root).context]
  spans_eq : (l'.context (l'.span root).context).spans = closed
  created_lt : ∀ p ∈ created, l.spans.size ≤ p.1 ∧ p.1 < l'.spans.size
  sorted : (created.map Prod.fst).Pairwise (· < ·)
  created_real : ∀ p ∈ created, (l'.span p.1).noop = false ∧
    (l'.span p.1).context = (l'.span root).context
  complete : ∀ s, l.spans.size ≤ s → s < l'.spans.size → (l'.span s).noop = false →
    s ∈ created.map Prod.fst
  sids : created.map (fun p => (l'.span p.1).sid) =
    (List.range created.length).map fun i : Nat => (i : Int)
  pids : ∀ p ∈ created, p = (root, none) ∧ (l'.span p.1).pid = -1 ∨
    p.1 ≠ root ∧ ∃ e, p.2 = some e ∧ (l'.span p.1).pid = (l'.span e).sid ∧
      (l'.span p.1).pid ≠ -1
  closed_perm : closed.Perm (created.map Prod.fst)
  root_last : closed.getLast? = some root

/-- The block around `hbody` has created its context and its span. -/
theorem Rooted.of_body {l l₂ : Ledger} {created : List (Nat × Option Nat)} {closed : List Nat}
    (hbody : Nested l.contexts.size created closed
      (((l.newContext false).create l.contexts.size (-1)).start l.spans.size) l₂) :
    Rooted l.spans.size ((l.spans.size, none) :: created) (closed ++ [l.spans.size]) l
      (l₂.stop l.spans.size) := by
  have hcontextNew : (l.newContext false).context l.contexts.size = ⟨false, 0, -1, []⟩ :=
    context_newContext_size l false
  have hnew : ((l.newContext false).create l.contexts.size (-1)).span l.spans.size =
      ⟨false, l.contexts.size, 0, 0, -1⟩ := by
    have hcreate := span_create_size (l.newContext false) l.contexts.size (-1)
    rw [hcontextNew] at hcreate
    exact hcreate
  have hsize : (((l.newContext false).create l.contexts.size (-1)).start
      l.spans.size).spans.size = l.spans.size + 1 := spans_size_start _ _
  have hopen : (((l.newContext false).create l.contexts.size (-1)).start
      l.spans.size).context l.contexts.size = ⟨false, 1, 0, []⟩ := by
    rw [context_start, hnew, if_pos ⟨rfl, rfl⟩, context_create, if_pos rfl, hcontextNew]
    rfl
  have hself : l₂.span l.spans.size = ⟨false, l.contexts.size, 1, 0, -1⟩ := by
    rw [hbody.span_eq _ (by omega), span_start, if_pos rfl, hnew]
    rfl
  have hlast : (l₂.stop l.spans.size).span l.spans.size = ⟨false, l.contexts.size, 0, 0, -1⟩ := by
    rw [span_stop, if_pos rfl, hself]
    rfl
  have hcontext : l₂.context l.contexts.size = ⟨false, 1, created.length, closed⟩ := by
    rw [hbody.context_self, hopen]
    simp
  constructor
  · rw [hlast]
  · intro s hs
    rw [span_stop_of_ne _ (by omega), hbody.span_eq s (by omega), span_start, if_neg (by omega)]
    exact span_create_of_lt (l.newContext false) _ _ hs
  · intro c hc
    rw [context_stop, hself, if_neg (by simp only; omega),
      hbody.context_eq c (by rw [contexts_size_start]; exact Nat.lt_succ_of_lt hc) (by omega),
      context_start, hnew, if_neg (by simp only; omega), context_create, if_neg (by omega),
      context_newContext_of_lt l false hc]
  · rw [archived_stop, hself, hlast, hcontext, if_pos ⟨rfl, rfl, rfl⟩, hbody.archived_eq,
      archived_start]
    rfl
  · rw [hlast, context_stop, hself, if_pos ⟨rfl, rfl⟩, hcontext]
    rfl
  · exact hbody.created_lt_cons hsize
  · exact hbody.sorted_cons hsize
  · rw [hlast]
    apply hbody.created_real_cons hsize
    rw [hlast]
    exact ⟨rfl, rfl⟩
  · exact hbody.complete_cons hsize
  · rw [hbody.sids_cons (by rw [hlast, hopen]), hopen]
    simp only [zero_add]
  · intro p hp
    rcases List.mem_cons.mp hp with rfl | hp
    · left
      rw [hlast]
      exact ⟨rfl, rfl⟩
    · obtain ⟨e, he, hp2, hnonneg, hpid⟩ := hbody.pids p hp
      have hgt := hbody.root_lt hsize p hp
      right
      refine ⟨hgt.ne', e, hp2, ?_⟩
      rw [span_stop_of_ne _ hgt.ne', sid_span_stop]
      exact ⟨hpid, by omega⟩
  · exact hbody.closed_perm_cons
  · simp

end SkyWalking.Ledger
