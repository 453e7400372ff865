import Mathlib.Data.List.Basic

/-!
# Runs of a labelled transition relation

A system is a relation between a state, the label of a step and the next state. Interleavings of
several parties are labels that say which party moves.
-/

variable {σ α : Type}

/-- The finite runs, extended at the end: the last step is the one an invariant looks at. -/
inductive Run (step : σ → α → σ → Prop) : σ → List α → σ → Prop where
  | nil (state : σ) : Run step state [] state
  | snoc {start state next : σ} {labels : List α} {label : α} :
      Run step start labels state → step state label next →
        Run step start (labels ++ [label]) next

/-- The steps that meet a condition on the label and on the state before the step. -/
def Guarded (guard : σ → α → Prop) (step : σ → α → σ → Prop) : σ → α → σ → Prop :=
  fun state label next => guard state label ∧ step state label next

namespace Run

variable {step : σ → α → σ → Prop}

/-- The invariant rule: what holds at the start and is kept by every step holds at the end. -/
theorem invariant {I : σ → Prop}
    (hstep : ∀ state label next, I state → step state label next → I next)
    {start finish : σ} {labels : List α} (hrun : Run step start labels finish)
    (hstart : I start) : I finish := by
  induction hrun with
  | nil => exact hstart
  | snoc _ hlast ih => exact hstep _ _ _ ih hlast

/-- The ranking rule: the labels that use up a measure, which the others do not raise, are as many as the
measure allows. -/
theorem countP_le {I : σ → Prop} (measure : σ → Nat) (counted : α → Bool)
    (hkept : ∀ state label next, I state → step state label next → I next)
    (hstep : ∀ state label next, I state → step state label next →
      measure next + (counted label).toNat ≤ measure state)
    {start finish : σ} {labels : List α} (hrun : Run step start labels finish) (hstart : I start) :
    labels.countP counted + measure finish ≤ measure start := by
  induction hrun with
  | nil => simp
  | @snoc state next labels label hbefore hlast ih =>
      have hstate := hbefore.invariant (I := I) hkept hstart
      have hle := hstep state label next hstate hlast
      have hsingle : [label].countP counted = (counted label).toNat := by
        cases hcounted : counted label <;> simp [hcounted]
      rw [List.countP_append, hsingle]
      omega

theorem single {start finish : σ} {label : α} (h : step start label finish) :
    Run step start [label] finish :=
  snoc (nil start) h

theorem append {start middle finish : σ} {left right : List α}
    (hleft : Run step start left middle) (hright : Run step middle right finish) :
    Run step start (left ++ right) finish := by
  induction hright with
  | nil => simpa using hleft
  | snoc _ hlast ih =>
      rw [← List.append_assoc]
      exact snoc ih hlast

theorem mono {step' : σ → α → σ → Prop}
    (hle : ∀ state label next, step state label next → step' state label next)
    {start finish : σ} {labels : List α} (hrun : Run step start labels finish) :
    Run step' start labels finish := by
  induction hrun with
  | nil => exact nil _
  | snoc _ hlast ih => exact snoc ih (hle _ _ _ hlast)

/-- A step function that is executed label by label. -/
theorem of_foldlM {next : σ → α → Option σ} (labels : List α) :
    ∀ {start finish : σ}, labels.foldlM next start = some finish →
      Run (fun state label state' => next state label = some state') start labels finish := by
  induction labels with
  | nil =>
      intro start finish h
      obtain rfl := Option.some.inj h
      exact nil start
  | cons label rest ih =>
      intro start finish h
      rw [List.foldlM_cons] at h
      obtain ⟨middle, hmiddle, hrest⟩ := Option.bind_eq_some_iff.mp h
      exact append (single hmiddle) (ih hrest)

/-- A step function that is executed as long as a test of the state and the label succeeds. -/
theorem of_guarded_foldlM {next : σ → α → Option σ} {test : σ → α → Bool} {labels : List α}
    {start finish : σ}
    (h : labels.foldlM (fun state label => if test state label then next state label else none)
      start = some finish) :
    Run (Guarded (fun state label => test state label = true)
      fun state label state' => next state label = some state') start labels finish := by
  refine (of_foldlM labels h).mono fun state label state' hstep => ?_
  split at hstep
  · next htest => exact ⟨htest, hstep⟩
  · cases hstep

/-- The state that an executed run ends in, with what a test finds there. -/
theorem exists_of_foldlM {next : σ → α → Option σ} {labels : List α} {start : σ} {P : σ → Prop}
    [DecidablePred P]
    (h : (labels.foldlM next start).any (fun state => decide (P state)) = true) :
    ∃ finish, Run (fun state label state' => next state label = some state') start labels finish ∧
      P finish := by
  obtain ⟨finish, hfinish, htest⟩ := (Option.any_eq_true _ _).mp h
  exact ⟨finish, of_foldlM labels hfinish, of_decide_eq_true htest⟩

theorem exists_of_guarded_foldlM {next : σ → α → Option σ} {test : σ → α → Bool} {labels : List α}
    {start : σ} {P : σ → Prop} [DecidablePred P]
    (h : (labels.foldlM (fun state label => if test state label then next state label else none)
      start).any (fun state => decide (P state)) = true) :
    ∃ finish, Run (Guarded (fun state label => test state label = true)
      fun state label state' => next state label = some state') start labels finish ∧ P finish := by
  obtain ⟨finish, hfinish, htest⟩ := (Option.any_eq_true _ _).mp h
  exact ⟨finish, of_guarded_foldlM hfinish, of_decide_eq_true htest⟩

theorem guarded {guard : α → Prop} {start finish : σ} {labels : List α}
    (hrun : Run step start labels finish) (hguard : ∀ label ∈ labels, guard label) :
    Run (Guarded (fun _ label => guard label) step) start labels finish := by
  induction hrun with
  | nil => exact nil _
  | snoc _ hlast ih =>
      refine snoc (ih fun other hother => hguard other (List.mem_append_left _ hother)) ⟨?_, hlast⟩
      exact hguard _ (List.mem_append_right _ List.mem_cons_self)

/-- Under an invariant a condition on the steps can be replaced by one that follows from it. -/
theorem guard_mono {I : σ → Prop} {guard guard' : σ → α → Prop}
    (hstep : ∀ state label next, I state → step state label next → I next)
    (hguard : ∀ state label, I state → guard state label → guard' state label)
    {start finish : σ} {labels : List α} (hrun : Run (Guarded guard step) start labels finish)
    (hstart : I start) : Run (Guarded guard' step) start labels finish := by
  induction hrun with
  | nil => exact nil _
  | snoc hbefore hlast ih =>
      have hkept := hbefore.invariant (I := I) (fun _ _ _ hI hnext => hstep _ _ _ hI hnext.2) hstart
      exact snoc ih ⟨hguard _ _ hkept hlast.1, hlast.2⟩

end Run
