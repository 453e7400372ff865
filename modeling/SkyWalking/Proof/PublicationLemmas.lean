import SkyWalking.Proof.SamplerLemmas
import SkyWalking.Proof.SamplerSteps

/-!
# A profiler and the status of its context

A profiler in a slot either shares its status with its context already, or the `new_entry_span` that made
it is about to assign the status. A context never has two profilers in the slots. Both hold in every run;
only the first start of a profiler may come too early.
-/

namespace SkyWalking.ProfileThread

variable {maxParallel : Nat} {task : ProfileTask} {s s' : State} {own : Nat → Nat}

/-- The attempt has put its profiler into a slot. -/
def State.Took (s : State) (attempt context : Nat) : Prop :=
  s.owner attempt = some context ∧ ∃ idx, s.progress attempt = some (.took idx)

/-- The attempt has made its profiler, and may still put it into a slot. -/
def State.Made (s : State) (attempt context : Nat) : Prop :=
  s.owner attempt = some context ∧
    ((∃ idx, s.progress attempt = some (.scanning idx)) ∨
      ∃ idx, s.progress attempt = some (.took idx))

/-- The attempt has not come to its end. -/
def State.Active (s : State) (attempt context : Nat) : Prop :=
  s.owner attempt = some context ∧ (∀ idx, s.progress attempt ≠ some (.took idx)) ∧
    s.progress attempt ≠ some .refused ∧ s.progress attempt ≠ some .exhausted

/-- The status of the profiler that an attempt has made. -/
def State.reference (s : State) (attempt : Nat) : Nat := (s.profilers.get attempt).profileStatus

theorem State.Took.made {attempt context : Nat} (h : s.Took attempt context) :
    s.Made attempt context :=
  ⟨h.1, .inr h.2⟩

/-- How calls, contexts, profilers and references belong together; `own` tells the context that a
reference was made for. -/
structure Linked (own : Nat → Nat) (s : State) : Prop where
  fresh : ∀ context, s.contexts.size ≤ context →
    (s.contexts.get context).call = .idle ∧ (s.contexts.get context).profileStatus = none
  called : ∀ context attempt assigns, (s.contexts.get context).call = .attempting attempt assigns →
    s.owner attempt = some context ∧
      (assigns = true ↔ (s.contexts.get context).profileStatus = none)
  active : ∀ attempt context, s.Active attempt context →
    ∃ assigns, (s.contexts.get context).call = .attempting attempt assigns
  refs : ∀ context reference, (s.contexts.get context).profileStatus = some reference →
    reference < s.references.size ∧ own reference = context
  made : ∀ attempt context, s.Made attempt context →
    s.reference attempt < s.references.size ∧ own (s.reference attempt) = context ∧
      s.references.get (s.reference attempt) ≠ .none ∧
      ((s.contexts.get context).profileStatus = some (s.reference attempt) ∨
        (s.contexts.get context).call = .attempting attempt true ∧
          s.references.get (s.reference attempt) = .pending)
  took : ∀ attempt context, s.Took attempt context →
    (∃ assigns, (s.contexts.get context).call = .attempting attempt assigns) ∨
      (s.contexts.get context).profileStatus = some (s.reference attempt) ∧
        ((s.contexts.get context).call = .idle ∨
          ∃ status, (s.contexts.get context).call = .updating status ∧ status ≠ .none)
  once : ∀ attempt attempt' context, s.Took attempt context → s.Took attempt' context →
    attempt = attempt'

theorem Linked.lt_of_called (h : Linked own s) {context : Nat}
    (hcall : (s.contexts.get context).call ≠ .idle) : context < s.contexts.size := by
  by_contra hlarge
  exact hcall (h.fresh context (not_lt.mp hlarge)).1

/-- The attempt of the call that a context is in. -/
theorem Linked.attempt_eq (h : Linked own s) {context attempt attempt' : Nat} {assigns : Bool}
    (hcall : (s.contexts.get context).call = .attempting attempt assigns)
    (hmade : s.Made attempt' context)
    (hnone : (s.contexts.get context).profileStatus = none) : attempt' = attempt := by
  obtain ⟨-, -, -, hshares | ⟨hother, -⟩⟩ := h.made attempt' context hmade
  · rw [hnone] at hshares
    cases hshares
  · rw [hcall] at hother
    exact (Call.attempting.inj hother).1.symm

/-- A context that is not in a call has no profiler in the making, and none in a slot with a status that
is not watched. -/
theorem Linked.not_made (h : Linked own s) {context : Nat}
    (hidle : (s.contexts.get context).call = .idle)
    (hstatus : ∀ reference, (s.contexts.get context).profileStatus = some reference →
      s.references.get reference = .none) (attempt : Nat) : ¬ s.Made attempt context := by
  intro hmade
  obtain ⟨-, -, hne, hshares | ⟨hcall, -⟩⟩ := h.made attempt context hmade
  · exact hne (hstatus _ hshares)
  · rw [hidle] at hcall
    cases hcall

/-- Attempts, calls and statuses are what they were. -/
structure SameCalls (s s' : State) : Prop where
  size : s.contexts.size ≤ s'.contexts.size
  call : ∀ context, (s'.contexts.get context).call = (s.contexts.get context).call
  status : ∀ context,
    (s'.contexts.get context).profileStatus = (s.contexts.get context).profileStatus
  attempts : s'.slots.attempts = s.slots.attempts
  reference : ∀ attempt, s'.reference attempt = s.reference attempt

theorem owner_of_attempts (h : s'.slots.attempts = s.slots.attempts) (attempt : Nat) :
    s'.owner attempt = s.owner attempt := by
  unfold State.owner
  rw [h]

theorem progress_of_attempts (h : s'.slots.attempts = s.slots.attempts) (attempt : Nat) :
    s'.progress attempt = s.progress attempt := by
  unfold State.progress
  rw [h]

theorem took_of_attempts (h : s'.slots.attempts = s.slots.attempts) (attempt context : Nat) :
    s'.Took attempt context ↔ s.Took attempt context := by
  unfold State.Took
  rw [owner_of_attempts h, progress_of_attempts h]

theorem made_of_attempts (h : s'.slots.attempts = s.slots.attempts) (attempt context : Nat) :
    s'.Made attempt context ↔ s.Made attempt context := by
  unfold State.Made
  rw [owner_of_attempts h, progress_of_attempts h]

theorem active_of_attempts (h : s'.slots.attempts = s.slots.attempts) (attempt context : Nat) :
    s'.Active attempt context ↔ s.Active attempt context := by
  unfold State.Active
  rw [owner_of_attempts h, progress_of_attempts h]

/-- Only statuses that contexts hold are set, and not to `NONE`. -/
theorem Linked.congr (h : Linked own s) (hsame : SameCalls s s')
    (hsize : s'.references.size = s.references.size)
    (hget : ∀ reference, s'.references.get reference = s.references.get reference ∨
      (∃ context, (s.contexts.get context).profileStatus = some reference) ∧
        s'.references.get reference ≠ .none) : Linked own s' := by
  refine ⟨?_, ?_, ?_, ?_, ?_, ?_, ?_⟩
  · intro other hlarge
    rw [hsame.call, hsame.status]
    exact h.fresh other (hsame.size.trans hlarge)
  · intro other attempt assigns hcall
    rw [hsame.call] at hcall
    rw [owner_of_attempts hsame.attempts, hsame.status]
    exact h.called other attempt assigns hcall
  · intro attempt other hactive
    rw [hsame.call]
    exact h.active attempt other ((active_of_attempts hsame.attempts attempt other).mp hactive)
  · intro other reference hother
    rw [hsame.status] at hother
    rw [hsize]
    exact h.refs other reference hother
  · intro attempt other hmade
    obtain ⟨hlt, howner, hnone, hplace⟩ :=
      h.made attempt other ((made_of_attempts hsame.attempts attempt other).mp hmade)
    rw [hsame.reference, hsame.status, hsame.call, hsize]
    obtain hkept | ⟨⟨holder, hholder⟩, hset⟩ := hget (s.reference attempt)
    · rw [hkept]
      exact ⟨hlt, howner, hnone, hplace⟩
    · refine ⟨hlt, howner, hset, ?_⟩
      obtain hshares | ⟨hcall, -⟩ := hplace
      · exact .inl hshares
      · -- a reference that its context does not hold yet is held by no context
        have hself := (h.refs holder _ hholder).2
        rw [howner] at hself
        subst hself
        rw [(h.called other attempt true hcall).2.mp rfl] at hholder
        cases hholder
  · intro attempt other htook
    rw [hsame.reference, hsame.status, hsame.call]
    exact h.took attempt other ((took_of_attempts hsame.attempts attempt other).mp htook)
  · intro attempt attempt' other htook htook'
    exact h.once attempt attempt' other ((took_of_attempts hsame.attempts attempt other).mp htook)
      ((took_of_attempts hsame.attempts attempt' other).mp htook')

theorem Linked.congr_references (h : Linked own s) (hsame : SameCalls s s')
    (hrefs : s'.references = s.references) : Linked own s' := by
  refine h.congr hsame (by rw [hrefs]) ?_
  intro reference
  exact .inl (by rw [hrefs])

/-- The profile thread sets a status that some context holds. -/
theorem Linked.setReference (h : Linked own s) (hsame : SameCalls s s') {context reference : Nat}
    (hstatus : (s.contexts.get context).profileStatus = some reference) {status : ProfileStatus}
    (hne : status ≠ .none) (hrefs : s'.references = s.references.set reference status) :
    Linked own s' := by
  refine h.congr hsame (by rw [hrefs]; rfl) ?_
  intro other
  rw [hrefs, Store.get_set]
  split
  · next heq => exact .inr ⟨⟨context, heq ▸ hstatus⟩, hne⟩
  · exact .inl rfl

/-- One context that is in use changes; the attempts may change, but none of them is made. -/
theorem Linked.withContext (h : Linked own s) {own' : Nat → Nat} (context : Nat)
    (hothers : ∀ other, other ≠ context → s'.contexts.get other = s.contexts.get other)
    (hsize : s'.contexts.size = s.contexts.size) (hlt : context < s.contexts.size)
    (hprofilers : s'.profilers = s.profilers)
    (howner : ∀ attempt other, s.owner attempt = some other → s'.owner attempt = some other)
    (hmade : ∀ attempt other, s'.Made attempt other → s.Made attempt other)
    (htook : ∀ attempt other, s'.Took attempt other → s.Took attempt other)
    (hactive : ∀ attempt other, other ≠ context → s'.Active attempt other → s.Active attempt other)
    (hgrown : s.references.size ≤ s'.references.size)
    (hown : ∀ reference < s.references.size, own' reference = own reference)
    (hget : ∀ reference < s.references.size, own reference ≠ context →
      s'.references.get reference = s.references.get reference)
    (hcalled : ∀ attempt assigns, (s'.contexts.get context).call = .attempting attempt assigns →
      s'.owner attempt = some context ∧
        (assigns = true ↔ (s'.contexts.get context).profileStatus = none))
    (hcalling : ∀ attempt, s'.Active attempt context →
      ∃ assigns, (s'.contexts.get context).call = .attempting attempt assigns)
    (hrefs : ∀ reference, (s'.contexts.get context).profileStatus = some reference →
      reference < s'.references.size ∧ own' reference = context)
    (hplace : ∀ attempt, s.Made attempt context →
      s'.references.get (s.reference attempt) ≠ .none ∧
        ((s'.contexts.get context).profileStatus = some (s.reference attempt) ∨
          (s'.contexts.get context).call = .attempting attempt true ∧
            s'.references.get (s.reference attempt) = .pending))
    (hsettled : ∀ attempt, s.Took attempt context →
      (∃ assigns, (s'.contexts.get context).call = .attempting attempt assigns) ∨
        (s'.contexts.get context).profileStatus = some (s.reference attempt) ∧
          ((s'.contexts.get context).call = .idle ∨
            ∃ status, (s'.contexts.get context).call = .updating status ∧ status ≠ .none)) :
    Linked own' s' := by
  have hreference : ∀ attempt, s'.reference attempt = s.reference attempt := by
    intro attempt
    unfold State.reference
    rw [hprofilers]
  refine ⟨?_, ?_, ?_, ?_, ?_, ?_, ?_⟩
  · intro other hlarge
    rw [hsize] at hlarge
    rw [hothers other (by omega)]
    exact h.fresh other hlarge
  · intro other attempt assigns hcall
    by_cases heq : other = context
    · subst heq
      exact hcalled attempt assigns hcall
    · rw [hothers other heq] at hcall ⊢
      obtain ⟨howned, hassigns⟩ := h.called other attempt assigns hcall
      exact ⟨howner attempt other howned, hassigns⟩
  · intro attempt other hother
    by_cases heq : other = context
    · subst heq
      exact hcalling attempt hother
    · rw [hothers other heq]
      exact h.active attempt other (hactive attempt other heq hother)
  · intro other reference hstatus
    by_cases heq : other = context
    · subst heq
      exact hrefs reference hstatus
    · rw [hothers other heq] at hstatus
      obtain ⟨hbound, howned⟩ := h.refs other reference hstatus
      exact ⟨hbound.trans_le hgrown, (hown reference hbound).trans howned⟩
  · intro attempt other hnew
    obtain ⟨hbound, howned, hnone, hwhere⟩ := h.made attempt other (hmade attempt other hnew)
    rw [hreference]
    refine ⟨hbound.trans_le hgrown, (hown _ hbound).trans howned, ?_⟩
    by_cases heq : other = context
    · subst heq
      exact hplace attempt (hmade attempt other hnew)
    · have hkept := hget _ hbound (by rw [howned]; exact heq)
      rw [hkept, hothers other heq]
      exact ⟨hnone, hwhere⟩
  · intro attempt other hnew
    rw [hreference]
    by_cases heq : other = context
    · subst heq
      exact hsettled attempt (htook attempt other hnew)
    · rw [hothers other heq]
      exact h.took attempt other (htook attempt other hnew)
  · intro attempt attempt' other hfirst hsecond
    exact h.once attempt attempt' other (htook attempt other hfirst) (htook attempt' other hsecond)

/-- One context changes, and no attempt does. -/
theorem Linked.onContext (h : Linked own s) {own' : Nat → Nat} (context : Nat)
    (f : TraceContext → TraceContext) (hcontexts : s'.contexts = s.contexts.modify context f)
    (hlt : context < s.contexts.size) (hslots : s'.slots = s.slots)
    (hprofilers : s'.profilers = s.profilers)
    (hgrown : s.references.size ≤ s'.references.size)
    (hown : ∀ reference < s.references.size, own' reference = own reference)
    (hget : ∀ reference < s.references.size, own reference ≠ context →
      s'.references.get reference = s.references.get reference)
    (hcalled : ∀ attempt assigns, (f (s.contexts.get context)).call ≠ .attempting attempt assigns)
    (hcalling : ∀ attempt, ¬ s.Active attempt context)
    (hrefs : ∀ reference, (f (s.contexts.get context)).profileStatus = some reference →
      reference < s'.references.size ∧ own' reference = context)
    (hplace : ∀ attempt, s.Made attempt context →
      s'.references.get (s.reference attempt) ≠ .none ∧
        (f (s.contexts.get context)).profileStatus = some (s.reference attempt))
    (hsettled : ∀ attempt, s.Took attempt context →
      (f (s.contexts.get context)).call = .idle ∨
        ∃ status, (f (s.contexts.get context)).call = .updating status ∧ status ≠ .none) :
    Linked own' s' := by
  have hself : s'.contexts.get context = f (s.contexts.get context) := by
    rw [hcontexts, Store.get_modify_self]
  have hattempts : s'.slots.attempts = s.slots.attempts := by rw [hslots]
  refine h.withContext context ?_ (by rw [hcontexts]; rfl) hlt hprofilers ?_
    (fun attempt other => (made_of_attempts hattempts attempt other).mp)
    (fun attempt other => (took_of_attempts hattempts attempt other).mp)
    (fun attempt other _ => (active_of_attempts hattempts attempt other).mp) hgrown hown hget ?_ ?_ ?_
    ?_ ?_
  · intro other hne
    rw [hcontexts, Store.get_modify_of_ne _ _ hne]
  · intro attempt other howner
    rw [owner_of_attempts hattempts]
    exact howner
  · intro attempt assigns hcall
    rw [hself] at hcall
    exact absurd hcall (hcalled attempt assigns)
  · intro attempt hactive
    exact absurd ((active_of_attempts hattempts attempt context).mp hactive) (hcalling attempt)
  · rw [hself]
    exact hrefs
  · intro attempt hmade
    rw [hself]
    exact ⟨(hplace attempt hmade).1, .inl (hplace attempt hmade).2⟩
  · intro attempt htook
    rw [hself]
    exact .inr ⟨(hplace attempt htook.made).2, hsettled attempt htook⟩

/-- No attempt of a context is active unless the context is in a call of it. -/
theorem Linked.not_active (h : Linked own s) {context : Nat}
    (hcall : ∀ attempt assigns, (s.contexts.get context).call = .attempting attempt assigns →
      ¬ s.Active attempt context) (attempt : Nat) : ¬ s.Active attempt context := by
  intro hactive
  obtain ⟨assigns, hother⟩ := h.active attempt context hactive
  exact hcall attempt assigns hother hactive

theorem not_active_of_progress {attempt context : Nat}
    (hprogress : (∃ idx, s.progress attempt = some (.took idx)) ∨
      s.progress attempt = some .refused ∨ s.progress attempt = some .exhausted) :
    ¬ s.Active attempt context := by
  rintro ⟨-, htook, hrefused, hexhausted⟩
  obtain ⟨idx, hprogress⟩ | hprogress | hprogress := hprogress
  · exact htook idx hprogress
  · exact hrefused hprogress
  · exact hexhausted hprogress

theorem not_made_of_progress {attempt context : Nat}
    (hprogress : s.progress attempt = some .refused ∨ s.progress attempt = some .exhausted) :
    ¬ s.Made attempt context := by
  rintro ⟨-, ⟨idx, hscanning⟩ | ⟨idx, htook⟩⟩
  · rw [hscanning] at hprogress
    simp at hprogress
  · rw [htook] at hprogress
    simp at hprogress

/-- A context without a profiler gets a new status `NONE`. -/
theorem Linked.assignNone (h : Linked own s) {context : Nat} (hlt : context < s.contexts.size)
    (hactive : ∀ attempt, ¬ s.Active attempt context)
    (hmade : ∀ attempt, ¬ s.Made attempt context) :
    Linked (Function.update own s.references.size context) (s.assignNone context) := by
  refine h.onContext context
    (fun c => { c with profileStatus := some s.references.size, call := .idle })
    rfl hlt rfl rfl (Nat.le_succ _) ?_ ?_ (fun _ _ hcall => by cases hcall) hactive ?_ ?_ ?_
  · intro reference hbound
    exact Function.update_of_ne (by omega) _ _
  · intro reference hbound _
    exact Store.get_alloc_of_lt _ _ hbound
  · intro reference hreference
    obtain rfl := Option.some.inj hreference
    exact ⟨Nat.lt_succ_self _, Function.update_self ..⟩
  · intro attempt hattempt
    exact absurd hattempt (hmade attempt)
  · intro attempt htook
    exact absurd htook.made (hmade attempt)

theorem Linked.settleTook (h : Linked own s) {context attempt idx : Nat}
    (hcall : (s.contexts.get context).call = .attempting attempt true)
    (hprogress : s.progress attempt = some (.took idx)) :
    Linked own (s.setProfileStatus context (s.profilers.get attempt).profileStatus) := by
  obtain ⟨howner, hassigns⟩ := h.called context attempt true hcall
  have hnone := hassigns.mp rfl
  have htook : s.Took attempt context := ⟨howner, idx, hprogress⟩
  obtain ⟨hbound, howned, hstatus, -⟩ := h.made attempt context htook.made
  refine h.onContext context
    (fun c => { c with profileStatus := some (s.reference attempt), call := .idle })
    rfl (h.lt_of_called (by rw [hcall]; exact Call.noConfusion)) rfl rfl le_rfl (fun _ _ => rfl)
    (fun _ _ _ => rfl) (fun _ _ hcall => by cases hcall) ?_ ?_ ?_ (fun _ _ => .inl rfl)
  · refine h.not_active ?_
    intro attempt' assigns' hcall'
    obtain ⟨rfl, -⟩ := Call.attempting.inj (hcall.symm.trans hcall')
    exact not_active_of_progress (.inl ⟨idx, hprogress⟩)
  · intro reference hreference
    obtain rfl := Option.some.inj hreference
    exact ⟨hbound, howned⟩
  · intro attempt' hmade
    obtain rfl := h.attempt_eq hcall hmade hnone
    exact ⟨hstatus, rfl⟩

/-- `add_profiling` has returned, and its status is copied. -/
theorem Linked.recheck (h : Linked own s) {context attempt : Nat} {status : ProfileStatus}
    (hcall : (s.contexts.get context).call = .attempting attempt false)
    (hactive : ¬ s.Active attempt context)
    (hstatus : s.Took attempt context → status ≠ .none) :
    Linked own (s.setCall context (.updating status)) := by
  have hsome := (h.called context attempt false hcall).2
  have hplace : ∀ attempt', s.Made attempt' context →
      s.references.get (s.reference attempt') ≠ .none ∧
        (s.contexts.get context).profileStatus = some (s.reference attempt') := by
    intro attempt' hmade
    obtain ⟨-, -, hne, hshares | ⟨hother, -⟩⟩ := h.made attempt' context hmade
    · exact ⟨hne, hshares⟩
    · rw [hcall] at hother
      cases hother
  refine h.onContext context (fun c => { c with call := .updating status })
    rfl (h.lt_of_called (by rw [hcall]; exact Call.noConfusion)) rfl rfl le_rfl (fun _ _ => rfl)
    (fun _ _ _ => rfl) (fun _ _ hcall => by cases hcall) ?_ (fun reference => h.refs context reference)
    hplace ?_
  · refine h.not_active ?_
    intro attempt' assigns' hcall'
    obtain ⟨rfl, -⟩ := Call.attempting.inj (hcall.symm.trans hcall')
    exact hactive
  · intro attempt' htook
    obtain ⟨assigns, hsame⟩ | ⟨-, hidle | ⟨other, hupdating, -⟩⟩ := h.took attempt' context htook
    · obtain ⟨rfl, -⟩ := Call.attempting.inj (hcall.symm.trans hsame)
      exact .inr ⟨status, rfl, hstatus htook⟩
    · rw [hcall] at hidle
      cases hidle
    · rw [hcall] at hupdating
      cases hupdating

theorem Linked.update (h : Linked own s) {context reference : Nat} {status : ProfileStatus}
    (hcall : (s.contexts.get context).call = .updating status)
    (hstatus : (s.contexts.get context).profileStatus = some reference) :
    Linked own
      ({ s with references := s.references.set reference status }.setCall context .idle) := by
  have hactive : ∀ attempt, ¬ s.Active attempt context := by
    refine h.not_active ?_
    intro attempt assigns hother
    rw [hcall] at hother
    cases hother
  -- what was made has been put into a slot, so its status is not overwritten with `NONE`
  have htaken : ∀ attempt, s.Made attempt context →
      status ≠ .none ∧ (s.contexts.get context).profileStatus = some (s.reference attempt) := by
    rintro attempt ⟨howner, ⟨idx, hscanning⟩ | hprogress⟩
    · refine absurd ⟨howner, ?_, ?_, ?_⟩ (hactive attempt) <;> simp [hscanning]
    · obtain ⟨assigns, hother⟩ | ⟨hshares, hidle | ⟨other, hupdating, hne⟩⟩ :=
        h.took attempt context ⟨howner, hprogress⟩
      · rw [hcall] at hother
        cases hother
      · rw [hcall] at hidle
        cases hidle
      · obtain rfl := Call.updating.inj (hcall.symm.trans hupdating)
        exact ⟨hne, hshares⟩
  refine h.onContext context (fun c => { c with call := .idle })
    rfl (h.lt_of_called (by rw [hcall]; exact Call.noConfusion)) rfl rfl le_rfl (fun _ _ => rfl)
    ?_ (fun _ _ hcall => by cases hcall) hactive (fun reference => h.refs context reference) ?_
    (fun _ _ => .inl rfl)
  · intro other _ hother
    refine Store.get_set_of_ne _ _ ?_
    rintro rfl
    exact hother (h.refs context other hstatus).2
  · intro attempt hmade
    obtain ⟨hne, hshares⟩ := htaken attempt hmade
    obtain rfl := Option.some.inj (hstatus.symm.trans hshares)
    refine ⟨?_, hshares⟩
    change (s.references.set (s.reference attempt) status).get (s.reference attempt) ≠ _
    rw [Store.get_set_self]
    exact hne

theorem getElem?_append_singleton {α : Type} (entries : List α) (entry : α) (index : Nat) :
    (entries ++ [entry])[index]? = if index = entries.length then some entry else entries[index]? := by
  split
  · next heq =>
    subst heq
    simp
  · next hne =>
    by_cases hlt : index < entries.length
    · rw [List.getElem?_append_left hlt]
    · rw [List.getElem?_eq_none (by simp; omega), List.getElem?_eq_none (by omega)]

section Append

variable {context : Nat} {op : String}
  (hattempts : s'.slots.attempts = s.slots.attempts ++ [⟨context, op, .called⟩])

include hattempts

theorem owner_append (attempt : Nat) :
    s'.owner attempt =
      if attempt = s.slots.attempts.length then some context else s.owner attempt := by
  unfold State.owner
  rw [hattempts, List.map_append, List.map_singleton, getElem?_append_singleton, List.length_map]

theorem progress_append (attempt : Nat) :
    s'.progress attempt =
      if attempt = s.slots.attempts.length then some .called else s.progress attempt := by
  unfold State.progress
  rw [hattempts, getElem?_append_singleton]
  split <;> rfl

/-- A new call of `attempt_profiling` has made no profiler. -/
theorem made_of_append {attempt other : Nat} (hmade : s'.Made attempt other) :
    s.Made attempt other := by
  obtain ⟨hother, hmaking⟩ := hmade
  rw [owner_append hattempts] at hother
  rw [progress_append hattempts] at hmaking
  split at hother
  · next heq => simp [heq] at hmaking
  · next hne =>
    rw [if_neg hne] at hmaking
    exact ⟨hother, hmaking⟩

theorem took_of_append {attempt other : Nat} (htook : s'.Took attempt other) :
    s.Took attempt other := by
  obtain ⟨hother, htaking⟩ := htook
  rw [owner_append hattempts] at hother
  rw [progress_append hattempts] at htaking
  split at hother
  · next heq => simp [heq] at htaking
  · next hne =>
    rw [if_neg hne] at htaking
    exact ⟨hother, htaking⟩

end Append

theorem get_setCall_self (s : State) (context : Nat) (call : Call) :
    (s.setCall context call).contexts.get context = { s.contexts.get context with call := call } := by
  unfold State.setCall
  rw [Store.get_modify_self]

theorem get_setCall_of_ne (s : State) {context other : Nat} (call : Call) (hne : other ≠ context) :
    (s.setCall context call).contexts.get other = s.contexts.get other := by
  unfold State.setCall
  rw [Store.get_modify_of_ne _ _ hne]

/-- A call of `attempt_profiling` begins, in a context without a profiler. -/
theorem Linked.addProfiling (h : Linked own s) {context : Nat} {op : String} {assigns : Bool}
    {slots : ProfileTaskExecutionContext.State} (hready : s.Ready context)
    (hstatus : if assigns then (s.contexts.get context).profileStatus = none else
      ∃ reference, (s.contexts.get context).profileStatus = some reference ∧
        s.references.get reference = .none)
    (hslots : ProfileTaskExecutionContext.Transition maxParallel s.slots
      (.attemptProfiling context op) slots) :
    Linked own
      ({ s with slots := slots }.setCall context (.attempting s.slots.attempts.length assigns)) := by
  obtain ⟨hlt, -, hidle, -⟩ := hready
  have hassigns : assigns = true ↔ (s.contexts.get context).profileStatus = none := by
    cases assigns with
    | true => exact ⟨fun _ => by simpa using hstatus, fun _ => rfl⟩
    | false =>
        obtain ⟨reference, hsome, -⟩ := (by simpa using hstatus :
          ∃ reference, (s.contexts.get context).profileStatus = some reference ∧
            s.references.get reference = .none)
        rw [hsome]
        simp
  have hmade : ∀ attempt, ¬ s.Made attempt context := by
    apply h.not_made hidle
    intro reference hreference
    cases assigns with
    | true =>
        rw [hassigns.mp rfl] at hreference
        cases hreference
    | false =>
        obtain ⟨other, hother, hnone⟩ := (by simpa using hstatus :
          ∃ reference, (s.contexts.get context).profileStatus = some reference ∧
            s.references.get reference = .none)
        obtain rfl := Option.some.inj (hother.symm.trans hreference)
        exact hnone
  cases hslots with
  | call =>
      refine h.withContext context ?_ rfl hlt rfl ?_ ?_ ?_ ?_ le_rfl (fun _ _ => rfl)
        (fun _ _ _ => rfl) ?_ ?_ ?_ (fun attempt hattempt => absurd hattempt (hmade attempt))
        (fun attempt htook => absurd htook.made (hmade attempt))
      · intro other hne
        exact get_setCall_of_ne _ _ hne
      · intro attempt other hother
        rw [owner_append rfl, if_neg]
        · exact hother
        · rintro rfl
          have hbound := (List.getElem?_eq_some_iff.mp hother).1
          simp at hbound
      · intro attempt other
        exact made_of_append rfl
      · intro attempt other
        exact took_of_append rfl
      · rintro attempt other hne ⟨hother, hactive⟩
        rw [owner_append rfl] at hother
        rw [progress_append rfl] at hactive
        split at hother
        · exact absurd (Option.some.inj hother).symm hne
        · next hold =>
          rw [if_neg hold] at hactive
          exact ⟨hother, hactive⟩
      · intro attempt assigns' hcall
        rw [get_setCall_self] at hcall
        obtain ⟨rfl, rfl⟩ := Call.attempting.inj hcall
        refine ⟨by rw [owner_append rfl, if_pos rfl], ?_⟩
        rw [get_setCall_self]
        exact hassigns
      · rintro attempt ⟨hother, hactive⟩
        rw [owner_append rfl] at hother
        rw [progress_append rfl] at hactive
        rw [get_setCall_self]
        split at hother
        · next heq => exact ⟨assigns, by rw [heq]⟩
        · next hold =>
          rw [if_neg hold] at hactive
          obtain ⟨assigns', hcall⟩ := h.active attempt context ⟨hother, hactive⟩
          rw [hidle] at hcall
          cases hcall
      · intro reference hreference
        rw [get_setCall_self] at hreference
        exact h.refs context reference hreference

/-- What an operation of `attempt_profiling` does to the slots: it takes one, or the attempt comes to
another point. -/
inductive Advance (t : ProfileTaskExecutionContext.State) (index : Nat) :
    ProfileTaskExecutionContext.State → Prop where
  | take (attempt : ProfileTaskExecutionContext.Attempt) (idx : Nat) :
      t.attempts[index]? = some attempt → attempt.progress = .scanning idx →
      t.profilingSegmentSlots[idx]? = some none →
      Advance t index { t.setProgress index attempt (.took idx) with
        profilingSegmentSlots :=
          t.profilingSegmentSlots.set idx (some ⟨index, attempt.traceContext⟩) }
  | go (attempt : ProfileTaskExecutionContext.Attempt)
      (progress : ProfileTaskExecutionContext.Progress) (count : Int) :
      t.attempts[index]? = some attempt → (∀ idx, progress ≠ .took idx) →
      (∀ idx, progress = .scanning (idx + 1) → attempt.progress = .scanning idx) →
      (progress = .scanning 0 → attempt.progress = .checked t.currentProfilingCnt) →
      Advance t index { t.setProgress index attempt progress with currentProfilingCnt := count }

theorem advance_of_transition {t t' : ProfileTaskExecutionContext.State} {index : Nat}
    (h : ProfileTaskExecutionContext.Transition maxParallel t (.attemptStep index) t') :
    Advance t index t' := by
  cases h with
  | take _ attempt idx hattempt hprogress hslot => exact .take attempt idx hattempt hprogress hslot
  | raise _ attempt hattempt hprogress =>
      exact .go attempt _ _ hattempt (fun _ h => by cases h) (fun _ h => by cases h)
        fun _ => hprogress
  | pass _ attempt idx _ hattempt hprogress =>
      refine .go attempt _ t.currentProfilingCnt hattempt (fun _ h => by cases h) ?_
        (fun h => by cases h)
      intro other hother
      cases hother
      exact hprogress
  | refuse _ attempt hattempt | read _ attempt hattempt | check _ attempt _ hattempt
  | exhaust _ attempt _ hattempt =>
      exact .go attempt _ t.currentProfilingCnt hattempt (fun _ h => by cases h)
        (fun _ h => by cases h) (fun h => by cases h)

/-- What an operation of an attempt leaves alone. -/
structure Advanced (attempt : Nat) (s s' : State) : Prop where
  owner : ∀ other, s'.owner other = s.owner other
  progress : ∀ other, other ≠ attempt → s'.progress other = s.progress other
  took : ∀ idx, s'.progress attempt = some (.took idx) → s.progress attempt = some (.scanning idx)
  scanning : ∀ idx, s'.progress attempt = some (.scanning (idx + 1)) →
    s.progress attempt = some (.scanning idx)
  first : s'.progress attempt = some (.scanning 0) → ∃ count, s.progress attempt = some (.checked count)

theorem progress_setProgress {t : ProfileTaskExecutionContext.State} {index : Nat}
    {attempt : ProfileTaskExecutionContext.Attempt} (hattempt : t.attempts[index]? = some attempt)
    (progress : ProfileTaskExecutionContext.Progress) (other : Nat) :
    (t.setProgress index attempt progress).attempts[other]?.map
        ProfileTaskExecutionContext.Attempt.progress =
      if other = index then some progress
      else t.attempts[other]?.map ProfileTaskExecutionContext.Attempt.progress := by
  unfold ProfileTaskExecutionContext.State.setProgress
  split
  · next heq =>
    subst heq
    rw [List.getElem?_set_self', hattempt]
    rfl
  · next hne => rw [List.getElem?_set_ne (Ne.symm hne)]

theorem advanced_of_setProgress {index : Nat} {attempt : ProfileTaskExecutionContext.Attempt}
    (hattempt : s.slots.attempts[index]? = some attempt)
    (progress : ProfileTaskExecutionContext.Progress)
    (hattempts : s'.slots.attempts = (s.slots.setProgress index attempt progress).attempts)
    (htook : ∀ idx, progress = .took idx → attempt.progress = .scanning idx)
    (hscanning : ∀ idx, progress = .scanning (idx + 1) → attempt.progress = .scanning idx)
    (hfirst : progress = .scanning 0 → ∃ count, attempt.progress = .checked count) :
    Advanced index s s' := by
  have hprogress : ∀ other, s'.progress other =
      if other = index then some progress else s.progress other := by
    intro other
    unfold State.progress
    rw [hattempts]
    exact progress_setProgress hattempt progress other
  have hself : s.progress index = some attempt.progress := by
    unfold State.progress
    rw [hattempt]
    rfl
  refine ⟨?_, ?_, ?_, ?_, ?_⟩
  · intro other
    unfold State.owner
    rw [hattempts, owners_setProgress hattempt]
  · intro other hne
    rw [hprogress, if_neg hne]
  · intro idx h
    rw [hprogress, if_pos rfl] at h
    rw [hself, htook idx (Option.some.inj h)]
  · intro idx h
    rw [hprogress, if_pos rfl] at h
    rw [hself, hscanning idx (Option.some.inj h)]
  · intro h
    rw [hprogress, if_pos rfl] at h
    obtain ⟨count, hcount⟩ := hfirst (Option.some.inj h)
    exact ⟨count, by rw [hself, hcount]⟩

theorem advanced_of_advance {index : Nat} (h : Advance s.slots index s'.slots) :
    Advanced index s s' := by
  generalize hslots : s'.slots = t at h
  cases h with
  | take attempt idx hattempt hprogress hslot =>
      refine advanced_of_setProgress hattempt (.took idx) (by rw [hslots]) ?_ ?_ ?_
      · intro other hother
        cases hother
        exact hprogress
      · intro other hother
        cases hother
      · intro hother
        cases hother
  | go attempt progress count hattempt htook hscanning hfirst =>
      refine advanced_of_setProgress hattempt progress (by rw [hslots]) ?_ hscanning ?_
      · intro idx hother
        exact absurd hother (htook idx)
      · intro hzero
        exact ⟨_, hfirst hzero⟩

section Attempt

variable {context attempt : Nat} {assigns : Bool}

theorem Advanced.active (hadvanced : Advanced attempt s s') (h : Linked own s)
    (hcall : (s.contexts.get context).call = .attempting attempt assigns) {other other' : Nat}
    (hactive : s'.Active other other') :
    ∃ assigns', (s.contexts.get other').call = .attempting other assigns' := by
  obtain ⟨howner, hprogress⟩ := hactive
  rw [hadvanced.owner] at howner
  by_cases heq : other = attempt
  · subst heq
    obtain rfl := Option.some.inj (howner.symm.trans (h.called context other assigns hcall).1)
    exact ⟨assigns, hcall⟩
  · rw [hadvanced.progress other heq] at hprogress
    exact h.active other other' ⟨howner, hprogress⟩

theorem Advanced.took_of (hadvanced : Advanced attempt s s') {other other' : Nat}
    (htook : s'.Took other other') : s.Took other other' ∨ other = attempt := by
  obtain ⟨howner, hprogress⟩ := htook
  by_cases heq : other = attempt
  · exact .inr heq
  · rw [hadvanced.owner] at howner
    rw [hadvanced.progress other heq] at hprogress
    exact .inl ⟨howner, hprogress⟩

theorem Advanced.made_of (hadvanced : Advanced attempt s s') {other other' : Nat}
    (hmade : s'.Made other other') (hnot : s'.progress attempt ≠ some (.scanning 0) ∨ other ≠ attempt) :
    s.Made other other' := by
  obtain ⟨howner, hprogress⟩ := hmade
  rw [hadvanced.owner] at howner
  by_cases heq : other = attempt
  · subst heq
    refine ⟨howner, .inl ?_⟩
    obtain ⟨idx, hscanning⟩ | ⟨idx, htook⟩ := hprogress
    · cases idx with
      | zero =>
          obtain hnot | hnot := hnot
          · exact absurd hscanning hnot
          · exact absurd rfl hnot
      | succ idx => exact ⟨idx, hadvanced.scanning idx hscanning⟩
    · exact ⟨idx, hadvanced.took idx htook⟩
  · rw [hadvanced.progress other heq] at hprogress
    exact ⟨howner, hprogress⟩

/-- A context has at most one profiler in the slots, and the attempt of its call is another one. -/
theorem Advanced.once (hadvanced : Advanced attempt s s') (h : Linked own s)
    (hcall : (s.contexts.get context).call = .attempting attempt assigns) {first second other : Nat}
    (hfirst : s'.Took first other) (hsecond : s'.Took second other) : first = second := by
  have hnew : ∀ old, s'.Took attempt other → s.Took old other → old = attempt := by
    intro old hattempt hold
    have howner := (h.called context attempt assigns hcall).1
    obtain rfl := Option.some.inj (howner.symm.trans ((hadvanced.owner attempt).symm.trans hattempt.1))
    obtain ⟨assigns', hother⟩ | ⟨-, hidle | ⟨status, hupdating, -⟩⟩ := h.took old context hold
    · exact (Call.attempting.inj (hcall.symm.trans hother)).1.symm
    · rw [hcall] at hidle
      cases hidle
    · rw [hcall] at hupdating
      cases hupdating
  obtain hold | rfl := hadvanced.took_of hfirst
  · obtain hold' | rfl := hadvanced.took_of hsecond
    · exact h.once first second other hold hold'
    · exact hnew first hsecond hold
  · obtain hold' | rfl := hadvanced.took_of hsecond
    · exact (hnew second hfirst hold').symm
    · rfl

theorem Linked.proceed {slots : ProfileTaskExecutionContext.State} (h : Linked own s)
    (hcall : (s.contexts.get context).call = .attempting attempt assigns)
    (hadvance : Advance s.slots attempt slots)
    (hnot : { s with slots := slots }.progress attempt ≠ some (.scanning 0)) :
    Linked own { s with slots := slots } := by
  have hadvanced : Advanced attempt s { s with slots := slots } := advanced_of_advance hadvance
  refine ⟨h.fresh, ?_, fun _ _ => hadvanced.active h hcall, h.refs, ?_, ?_,
    fun _ _ _ => hadvanced.once h hcall⟩
  · intro other attempt' assigns' hother
    rw [hadvanced.owner]
    exact h.called other attempt' assigns' hother
  · intro attempt' other hmade
    exact h.made attempt' other (hadvanced.made_of hmade (.inl hnot))
  · intro attempt' other htook
    obtain hold | rfl := hadvanced.took_of htook
    · exact h.took attempt' other hold
    · have howner := htook.1
      rw [hadvanced.owner, (h.called context attempt' assigns hcall).1] at howner
      obtain rfl := Option.some.inj howner
      exact .inl ⟨assigns, hcall⟩

/-- The profiler is made: a context without a status gets a new one that it does not know yet. -/
theorem Linked.construct {slots : ProfileTaskExecutionContext.State} (h : Linked own s)
    (hcall : (s.contexts.get context).call = .attempting attempt assigns)
    (hadvance : Advance s.slots attempt slots)
    (hfirst : { s with slots := slots }.progress attempt = some (.scanning 0)) :
    ∃ own', Linked own' ({ s with slots := slots }.construct context attempt) := by
  have hadvanced : Advanced attempt s { s with slots := slots } := advanced_of_advance hadvance
  obtain ⟨howner, hassigns⟩ := h.called context attempt assigns hcall
  have hcalled : ∀ other attempt' assigns',
      (s.contexts.get other).call = .attempting attempt' assigns' →
        State.owner { s with slots := slots } attempt' = some other ∧
          (assigns' = true ↔ (s.contexts.get other).profileStatus = none) := by
    intro other attempt' assigns' hother
    rw [hadvanced.owner]
    exact h.called other attempt' assigns' hother
  have htook : ∀ attempt' other, State.Took { s with slots := slots } attempt' other →
      attempt' ≠ attempt ∧ s.Took attempt' other := by
    intro attempt' other hother
    have hne : attempt' ≠ attempt := by
      rintro rfl
      obtain ⟨-, idx, hprogress⟩ := hother
      rw [hfirst] at hprogress
      cases hprogress
    obtain hold | heq := hadvanced.took_of hother
    · exact ⟨hne, hold⟩
    · exact absurd heq hne
  have hself : ∀ other, State.Made { s with slots := slots } attempt other → other = context := by
    rintro other ⟨hother, -⟩
    rw [hadvanced.owner, howner] at hother
    exact (Option.some.inj hother).symm
  unfold State.construct
  cases hstatus : (s.contexts.get context).profileStatus with
  | none =>
      simp only
      refine ⟨Function.update own s.references.size context, h.fresh, hcalled,
        fun _ _ => hadvanced.active h hcall, ?_, ?_, ?_, fun _ _ _ => hadvanced.once h hcall⟩
      · intro other reference hreference
        obtain ⟨hbound, howned⟩ := h.refs other reference hreference
        refine ⟨hbound.trans (Nat.lt_succ_self _), ?_⟩
        rw [Function.update_of_ne (by omega)]
        exact howned
      · intro attempt' other hmade
        by_cases heq : attempt' = attempt
        · subst heq
          obtain rfl := hself other hmade
          have hreference : State.reference { s with
              slots := slots
              references := s.references.alloc .pending
              profilers := s.profilers.set attempt' { profileStatus := s.references.size } } attempt' =
                s.references.size := by
            unfold State.reference
            rw [Store.get_set_self]
          rw [hreference, Store.get_alloc_size]
          refine ⟨Nat.lt_succ_self _, Function.update_self .., ProfileStatus.noConfusion, .inr ⟨?_, rfl⟩⟩
          rw [hcall, hassigns.mpr hstatus]
        · have hreference : State.reference { s with
              slots := slots
              references := s.references.alloc .pending
              profilers := s.profilers.set attempt { profileStatus := s.references.size } } attempt' =
                s.reference attempt' := by
            unfold State.reference
            rw [Store.get_set_of_ne _ _ heq]
          obtain ⟨hbound, howned, hne, hwhere⟩ :=
            h.made attempt' other (hadvanced.made_of hmade (.inr heq))
          rw [hreference, Store.get_alloc_of_lt _ _ hbound]
          refine ⟨hbound.trans (Nat.lt_succ_self _), ?_, hne, hwhere⟩
          rw [Function.update_of_ne (by omega)]
          exact howned
      · intro attempt' other hother
        obtain ⟨hne, hold⟩ := htook attempt' other hother
        unfold State.reference
        rw [Store.get_set_of_ne _ _ hne]
        exact h.took attempt' other hold
  | some reference =>
      simp only
      obtain ⟨hreferenceLt, hreferenceOwn⟩ := h.refs context reference hstatus
      refine ⟨own, h.fresh, hcalled, fun _ _ => hadvanced.active h hcall, h.refs, ?_, ?_,
        fun _ _ _ => hadvanced.once h hcall⟩
      · intro attempt' other hmade
        by_cases heq : attempt' = attempt
        · subst heq
          obtain rfl := hself other hmade
          have hreference : State.reference { s with
              slots := slots
              references := s.references.set reference .pending
              profilers := s.profilers.set attempt' { profileStatus := reference } } attempt' =
                reference := by
            unfold State.reference
            rw [Store.get_set_self]
          rw [hreference, Store.get_set_self]
          exact ⟨hreferenceLt, hreferenceOwn, ProfileStatus.noConfusion, .inl hstatus⟩
        · have hreference : State.reference { s with
              slots := slots
              references := s.references.set reference .pending
              profilers := s.profilers.set attempt { profileStatus := reference } } attempt' =
                s.reference attempt' := by
            unfold State.reference
            rw [Store.get_set_of_ne _ _ heq]
          obtain ⟨hbound, howned, hne, hwhere⟩ :=
            h.made attempt' other (hadvanced.made_of hmade (.inr heq))
          rw [hreference, Store.get_set]
          refine ⟨hbound, howned, ?_, hwhere.imp_right fun hpending => ⟨hpending.1, ?_⟩⟩
          · split
            · exact ProfileStatus.noConfusion
            · exact hne
          · split
            · rfl
            · exact hpending.2
      · intro attempt' other hother
        obtain ⟨hne, hold⟩ := htook attempt' other hother
        unfold State.reference
        rw [Store.get_set_of_ne _ _ hne]
        exact h.took attempt' other hold

end Attempt

end SkyWalking.ProfileThread
