import SkyWalking.Proof.BatchLemmas
import SkyWalking.Proof.SuppressedLemmas
import SkyWalking.Trace.Limits

/-!
# Runs within the limits

The maps that contexts and snapshots refer to are only ever copied, except by the three operations that
write them; so only these have to be looked at.
-/

namespace SkyWalking

open World

variable {env : Env} {w w' : World}

namespace Correlation

variable {dict other : Correlation} {key value : String}

theorem keys_insert_of_mem (hmem : key ∈ dict.map Prod.fst) :
    (dict.insert key value).map Prod.fst = dict.map Prod.fst := by
  unfold Correlation.insert
  rw [if_pos hmem, List.map_map]
  refine List.map_congr_left fun entry _ => ?_
  by_cases heq : entry.1 = key
  · simp [heq]
  · simp [heq]

theorem length_insert_of_mem (hmem : key ∈ dict.map Prod.fst) :
    (dict.insert key value).length = dict.length := by
  have hkeys : (dict.insert key value).map Prod.fst = dict.map Prod.fst := keys_insert_of_mem hmem
  simpa using congrArg List.length hkeys

theorem lookup_append (hnew : key ∉ dict.map Prod.fst) :
    (dict ++ [(key, value)]).lookup key = some value := by
  induction dict with
  | nil => simp
  | cons entry rest ih =>
      rw [List.map_cons, List.mem_cons, not_or] at hnew
      rw [List.cons_append, List.lookup_cons, beq_false_of_ne hnew.1]
      exact ih hnew.2

theorem lookup_replace (hmem : key ∈ dict.map Prod.fst) :
    (dict.map fun entry => if entry.1 = key then (key, value) else entry).lookup key =
      some value := by
  induction dict with
  | nil => cases hmem
  | cons entry rest ih =>
      by_cases heq : entry.1 = key
      · simp [heq]
      · have hrest : key ∈ rest.map Prod.fst := by
          simpa [Ne.symm heq] using hmem
        rw [List.map_cons, if_neg heq, List.lookup_cons, beq_false_of_ne (Ne.symm heq)]
        exact ih hrest

theorem lookup_insert (dict : Correlation) (key value : String) :
    (dict.insert key value).lookup key = some value := by
  unfold Correlation.insert
  split
  · next hmem => exact lookup_replace hmem
  · next hmem => exact lookup_append hmem

theorem update_cons (entry : String × String) (rest : Correlation) :
    dict.update (entry :: rest) = (dict.insert entry.1 entry.2).update rest := rfl

theorem mem_update {entry : String × String} (h : entry ∈ dict.update other) :
    entry ∈ dict ∨ entry ∈ other := by
  induction other generalizing dict with
  | nil => exact .inl h
  | cons first rest ih =>
      obtain h | h := ih h
      · obtain rfl | h := mem_insert h
        · exact .inr List.mem_cons_self
        · exact .inl h
      · exact .inr (List.mem_cons_of_mem _ h)

/-- A merge adds at most the entries with new keys. -/
theorem length_update_le (dict other : Correlation) : (dict.update other).length ≤
    dict.length + (other.filter fun entry => entry.1 ∉ dict.map Prod.fst).length := by
  induction other generalizing dict with
  | nil => exact Nat.le_add_right _ _
  | cons entry rest ih =>
      have hrest := ih (dict.insert entry.1 entry.2)
      rw [update_cons]
      by_cases hmem : entry.1 ∈ dict.map Prod.fst
      · rw [keys_insert_of_mem hmem, length_insert_of_mem hmem] at hrest
        rw [List.filter_cons_of_neg (by simpa using hmem)]
        exact hrest
      · have hinsert : dict.insert entry.1 entry.2 = dict ++ [entry] := insert_of_new _ hmem
        have hfewer : (rest.filter fun e => e.1 ∉ (dict ++ [entry]).map Prod.fst).length ≤
            (rest.filter fun e => e.1 ∉ dict.map Prod.fst).length := by
          rw [← List.countP_eq_length_filter, ← List.countP_eq_length_filter]
          apply List.countP_mono_left
          intro e _ he
          simp only [decide_eq_true_eq, List.map_append, List.mem_append, not_or] at he ⊢
          exact he.1
        rw [hinsert] at hrest ⊢
        rw [List.filter_cons_of_pos (by simpa using hmem), List.length_cons]
        rw [List.length_append, List.length_singleton] at hrest
        omega

theorem WithinLimits.nil (hmax : 0 ≤ env.correlationElementMaxNumber) : WithinLimits env [] :=
  ⟨hmax, by simp⟩

theorem WithinLimits.putDict (h : dict.WithinLimits env) {key value : Option String}
    (hfits : SpanContext.PutFits env dict key value) :
    (SpanContext.putDict env key value dict).WithinLimits env := by
  obtain ⟨hlength, hvalues⟩ := h
  cases key with
  | none => exact ⟨hlength, hvalues⟩
  | some key =>
      cases value with
      | none =>
          have hle := List.length_filter_le (fun entry : String × String => entry.1 ≠ key) dict
          refine ⟨?_, fun entry hentry => hvalues entry (List.mem_filter.mp hentry).1⟩
          calc
            ((dict.filter fun entry => entry.1 ≠ key).length : Int) ≤ dict.length := by
              exact_mod_cast hle
            _ ≤ env.correlationElementMaxNumber := hlength
      | some value =>
          dsimp only [SpanContext.putDict]
          split
          · exact ⟨hlength, hvalues⟩
          · next hshort =>
            split
            · exact ⟨hlength, hvalues⟩
            · constructor
              · obtain hmem | hroom := hfits (by omega)
                · rw [length_insert_of_mem hmem]
                  exact hlength
                · by_cases hmem : key ∈ dict.map Prod.fst
                  · rw [length_insert_of_mem hmem]
                    exact hlength
                  · rw [insert_of_new _ hmem, List.length_append, List.length_singleton]
                    push_cast
                    omega
              · intro entry hentry
                obtain rfl | hold := mem_insert hentry
                · exact not_lt.mp hshort
                · exact hvalues entry hold

theorem WithinLimits.update (h : dict.WithinLimits env) (hother : other.WithinLimits env)
    (hfits : SpanContext.MergeFits env dict other) : (dict.update other).WithinLimits env := by
  have hlength := length_update_le dict other
  unfold SpanContext.MergeFits at hfits
  constructor
  · calc
      ((dict.update other).length : Int) ≤
          (dict.length + (other.filter fun entry => entry.1 ∉ dict.map Prod.fst).length : Nat) := by
        exact_mod_cast hlength
      _ ≤ env.correlationElementMaxNumber := by exact_mod_cast hfits
  · intro entry hentry
    obtain hold | hnew := mem_update hentry
    · exact h.2 entry hold
    · exact hother.2 entry hnew

/-- Below its limit a map takes any value that is short enough. -/
theorem WithinLimits.lookup_putDict (h : dict.WithinLimits env)
    (hvalue : (value.length : Int) ≤ env.correlationValueMaxLength) :
    (SpanContext.putDict env (some key) (some value) dict).lookup key = some value := by
  dsimp only [SpanContext.putDict]
  rw [if_neg (not_lt.mpr hvalue), if_neg (not_lt.mpr h.1)]
  exact lookup_insert dict key value

end Correlation

/-- A map that a context or a snapshot refers to, or the empty one. -/
inductive Owned (w : World) : Correlation → Prop where
  | empty : Owned w []
  | context (c : Nat) : c < w.contexts.size → Owned w (SpanContext.dict w c)
  | snapshot (a : Nat) : a < w.snapshots.size →
      Owned w (w.dicts.get (w.snapshots.get a).correlation)

/-- All maps that are referred to are within their limits. -/
def Bounded (env : Env) (w : World) : Prop := ∀ dict, Owned w dict → dict.WithinLimits env

/-- Between `w` and `w'` maps are only copied. -/
def Copies (w w' : World) : Prop := ∀ dict, Owned w' dict → Owned w dict

theorem Bounded.of_copies (hbounded : Bounded env w) (h : Copies w w') : Bounded env w' :=
  fun dict howned => hbounded dict (h dict howned)

namespace Copies

theorem refl (w : World) : Copies w w := fun _ h => h

theorem trans {w'' : World} (h : Copies w w') (h' : Copies w' w'') : Copies w w'' :=
  fun dict howned => h dict (h' dict howned)

theorem intro (hcontext : ∀ c < w'.contexts.size, Owned w (SpanContext.dict w' c))
    (hsnapshot : ∀ a < w'.snapshots.size,
      Owned w (w'.dicts.get (w'.snapshots.get a).correlation)) : Copies w w' := by
  intro dict howned
  cases howned with
  | empty => exact .empty
  | context c hc => exact hcontext c hc
  | snapshot a ha => exact hsnapshot a ha

/-- Contexts may change in everything but their maps. -/
theorem of_same (hsize : w'.contexts.size = w.contexts.size)
    (hcontexts : ∀ c, (w'.context c).correlation = (w.context c).correlation)
    (hdicts : w'.dicts = w.dicts) (hsnapshots : w'.snapshots = w.snapshots) : Copies w w' := by
  refine intro (fun c hc => ?_) fun a ha => ?_
  · rw [SpanContext.dict, hcontexts, hdicts]
    exact .context c (hsize ▸ hc)
  · rw [hsnapshots] at ha ⊢
    rw [hdicts]
    exact .snapshot a ha

theorem of_steady (h : Steady w w') (hsize : w'.contexts.size = w.contexts.size) : Copies w w' :=
  of_same hsize (fun c => (h.context c).2.2.2) h.dicts h.snapshots

theorem spansGet (task : Nat) (w : World) : Copies w (w.spansGet task) := by
  have hcontexts := spansGet_contexts w task
  refine of_same (by rw [hcontexts]) (fun c => ?_) (spansGet_dicts w task) (spansGet_snapshots w task)
  rw [World.context, hcontexts]
  rfl

/-- New dictionaries do not show in the old maps. -/
theorem allocDict (hok : WorldOk env w) (dict : Correlation) (hdicts : w'.dicts = w.dicts.alloc dict)
    (hcontexts : w'.contexts = w.contexts) (hsnapshots : w'.snapshots = w.snapshots) :
    Copies w w' := by
  refine intro (fun c hc => ?_) fun a ha => ?_
  · rw [hcontexts] at hc
    have hmap : (w.contexts.get c).correlation < w.dicts.size := hok.correlation_lt c hc
    rw [SpanContext.dict, World.context, hcontexts, hdicts, Store.get_alloc_of_lt _ _ hmap]
    exact .context c hc
  · rw [hsnapshots] at ha ⊢
    rw [hdicts, Store.get_alloc_of_lt _ _ (hok.snapshot_lt a ha)]
    exact .snapshot a ha

/-- A new context has an empty map of its own. -/
theorem allocContext (hok : WorldOk env w) {context : SpanContext}
    (hmap : context.correlation = w.dicts.size) (hdicts : w'.dicts = w.dicts.alloc [])
    (hcontexts : w'.contexts = w.contexts.alloc context) (hsnapshots : w'.snapshots = w.snapshots) :
    Copies w w' := by
  refine intro (fun c hc => ?_) fun a ha => ?_
  · rw [hcontexts, Store.size_alloc] at hc
    rw [SpanContext.dict, World.context, hcontexts, hdicts]
    by_cases hnew : c = w.contexts.size
    · rw [hnew, Store.get_alloc_size, hmap, Store.get_alloc_size]
      exact .empty
    · have hold : c < w.contexts.size := by omega
      have hmap : (w.contexts.get c).correlation < w.dicts.size := hok.correlation_lt c hold
      rw [Store.get_alloc_of_lt _ _ hold, Store.get_alloc_of_lt _ _ hmap]
      exact .context c hold
  · rw [hsnapshots] at ha ⊢
    rw [hdicts, Store.get_alloc_of_lt _ _ (hok.snapshot_lt a ha)]
    exact .snapshot a ha

theorem new (hok : WorldOk env w) : Copies w (SpanContext.new env w).1 :=
  allocContext hok rfl rfl rfl rfl

theorem newNoop (hok : WorldOk env w) : Copies w (SpanContext.newNoop w).1 :=
  allocContext hok rfl rfl rfl rfl

theorem getContext (hok : WorldOk env w) (task : Nat) (sampled : Bool) :
    Copies w (getContext env task sampled w).1 := by
  have hget := spansGet task w
  have hok' := (keeps_spansGet task hok).1
  unfold SkyWalking.getContext
  dsimp only
  split
  · exact hget
  · split
    · exact hget.trans (new hok')
    · exact hget.trans (newNoop hok')

/-- The snapshot gets a copy of a map. -/
theorem newSnapshot (hok : WorldOk env w) (snapshot : Snapshot) {dict : Correlation}
    (howned : Owned w dict) : Copies w (SpanContext.newSnapshot snapshot dict w).1 := by
  refine intro (fun c hc => ?_) fun a ha => ?_
  · have hmap := hok.correlation_lt c hc
    simp only [SpanContext.dict, SpanContext.newSnapshot, World.context] at hmap ⊢
    rw [Store.get_alloc_of_lt _ _ hmap]
    exact .context c hc
  · simp only [SpanContext.newSnapshot, Store.size_alloc] at ha ⊢
    by_cases hnew : a = w.snapshots.size
    · rw [hnew, Store.get_alloc_size, Store.get_alloc_size]
      exact howned
    · have hold : a < w.snapshots.size := by omega
      rw [Store.get_alloc_of_lt _ _ hold, Store.get_alloc_of_lt _ _ (hok.snapshot_lt a hold)]
      exact .snapshot a hold

theorem capture (hok : WorldOk env w) (task : Nat) {self : Nat} (hself : self < w.contexts.size) :
    Copies w (SpanContext.capture task self w).1 := by
  have hget := spansGet task w
  have hkeeps : Keeps env w (w.spansGet task) := keeps_spansGet task
  have hok' := (hkeeps hok).1
  have howned : Owned (w.spansGet task) (w.dicts.get (w.context self).correlation) := by
    have hself' : self < (w.spansGet task).contexts.size := by rwa [spansGet_contexts]
    have hmap : SpanContext.dict (w.spansGet task) self =
        w.dicts.get (w.context self).correlation := by
      rw [SpanContext.dict, World.context, spansGet_contexts, spansGet_dicts]
      rfl
    exact hmap ▸ Owned.context self hself'
  unfold SpanContext.capture
  dsimp only
  split
  · exact newSnapshot hok _ (.context self hself)
  · split
    · exact hget
    · exact hget.trans (newSnapshot hok' _ howned)

theorem isFromCurrent (hok : WorldOk env w) (task : Nat) {self : Nat}
    (hself : self < w.contexts.size) (snapshot : Snapshot) :
    Copies w (SpanContext.isFromCurrent task self snapshot w).1 := by
  have hcapture := capture hok task hself
  unfold SpanContext.isFromCurrent
  split
  · exact refl w
  · split <;> next heq =>
      rw [heq] at hcapture
      exact hcapture

/-- `start`, `stop` and the changes of a span. -/
theorem start (task s : Nat) (w : World) : Copies w (Span.start task s w) := by
  refine of_steady (Steady.start task s w) ?_
  have hledger := congrArg (fun l => l.contexts.size) (ledger_start task s w)
  simp only [Ledger.contexts_size_start] at hledger
  exact hledger

theorem stop (task s : Nat) (queueFull : Bool) (w : World) :
    Copies w (Span.stop task s queueFull w).1 := by
  refine of_steady (Steady.stop task s queueFull w) ?_
  have hledger := congrArg (fun l => l.contexts.size) (ledger_stop task s queueFull w)
  simp only [Ledger.contexts_size_stop] at hledger
  exact hledger

theorem modifySpan (s : Nat) (f : Span → Span) (w : World) : Copies w (w.modifySpan s f) :=
  of_same rfl (fun _ => rfl) rfl rfl

theorem edit (env : Env) (s : Nat) (change : Edit) (w : World) :
    Copies w (change.run env s w).1 := by
  cases change with
  | tag value =>
      unfold Edit.run Span.tag
      dsimp only
      split
      · exact refl w
      · exact modifySpan s _ w
  | _ => exact modifySpan s _ w

theorem inject (hok : WorldOk env w) (span : Nat) : Copies w (Span.inject env span w).1 := by
  unfold Span.inject
  split
  · exact of_same rfl (fun _ => rfl) rfl rfl
  · exact allocDict hok [] rfl rfl rfl
  · exact refl w

theorem receive (hok : WorldOk env w) (sw8 correlation : String) :
    Copies w (receiveCarrier env sw8 correlation w).1 := allocDict hok _ rfl rfl rfl

end Copies

theorem Bounded.related (hbounded : Bounded env w) {span : Nat} {carrier : Carrier}
    (hmap : (w.dicts.get carrier.correlation).WithinLimits env) :
    Bounded env (related env span carrier w) := by
  obtain ⟨hdicts, hsnapshots⟩ := idOf_stores env carrier.traceId w
  have hcontexts := idOf_contexts env carrier.traceId w
  intro dict howned
  cases howned with
  | empty => exact hbounded _ .empty
  | context c hc =>
      simp only [SkyWalking.related, World.modifyContext, Store.size_modify, hcontexts] at hc
      have hsame : SpanContext.dict (SkyWalking.related env span carrier w) c =
          if c = (w.span span).context then w.dicts.get carrier.correlation
          else SpanContext.dict w c := by
        simp only [SpanContext.dict, SkyWalking.related, World.context, World.modifyContext,
          Store.modify_modify, Store.get_modify, hdicts, hcontexts]
        split <;> rfl
      rw [hsame]
      split
      · exact hmap
      · exact hbounded _ (.context c hc)
  | snapshot a ha =>
      simp only [SkyWalking.related, World.modifyContext, hdicts, hsnapshots] at ha ⊢
      exact hbounded _ (.snapshot a ha)

theorem Bounded.extractReal (hbounded : Bounded env w) {span : Nat} {carrier : Carrier}
    (hmap : (w.dicts.get carrier.correlation).WithinLimits env) :
    Bounded env (Span.extractReal env span carrier w).1 := by
  have hrelated : Bounded env (SkyWalking.related env span carrier w) := hbounded.related hmap
  rw [← extractWithin_zero]
  exact extractWithin_rule hrelated fun ref => hrelated.of_copies (Copies.modifySpan span _ _)

theorem Bounded.newSpan (hok : WorldOk env w) (hbounded : Bounded env w) (self : Nat)
    {parent : Option Nat} (hparent : ∀ p ∈ parent, p < w.spans.size) (cls : SpanClass) (op : String)
    (peer : Option String) (component : Option Component) :
    Bounded env (SpanContext.newSpan env self parent cls op peer component w).1 := by
  cases hfinished : SpanContext.isFinished parent w with
  | false =>
      rw [newSpan_of_not_finished env w self parent cls op peer component hfinished]
      apply hbounded.of_copies
      refine .of_same rfl (fun c => ?_) rfl rfl
      simp only [World.context, Store.get_modify]
      split <;> rfl
  | true =>
      cases parent with
      | none => cases hfinished
      | some parent =>
          have hdepth : (w.span parent).depth = 0 := by
            simpa [SpanContext.isFinished] using hfinished
          have hlt := hparent parent rfl
          have hc := hok.span_context parent hlt
          rw [newSpan_of_finished env w self cls op peer component hdepth]
          -- the new context takes over the map of the parent's context
          have hdetached : Copies w (detached env cls op peer component w) := by
            refine (Copies.new hok).trans (Copies.of_same rfl (fun c => ?_) rfl rfl)
            simp only [detached, Span.alloc, World.context, World.modifyContext, Store.get_modify]
            split <;> rfl
          refine (hbounded.of_copies hdetached).extractReal ?_
          have hcarrier : (Span.carrierOf env parent
              (detached env cls op peer component w)).correlation =
                (w.context (w.span parent).context).correlation := by
            rw [carrierOf_detached cls op peer component hok hlt]
            rfl
          have hmap : (w.dicts.alloc []).get (w.context (w.span parent).context).correlation =
              SpanContext.dict w (w.span parent).context :=
            Store.get_alloc_of_lt _ _ (hok.correlation_lt _ hc)
          have hwithin := hbounded _ (.context _ hc)
          rw [← hmap, ← hcarrier] at hwithin
          exact hwithin

theorem extractReal_dicts (env : Env) (span : Nat) (carrier : Carrier) (w : World) :
    (Span.extractReal env span carrier w).1.dicts = w.dicts := by
  have hrelated : (related env span carrier w).dicts = w.dicts :=
    (idOf_stores env carrier.traceId w).1
  rw [← extractWithin_zero]
  exact extractWithin_rule (P := fun w' => w'.dicts = w.dicts) hrelated fun _ => hrelated

/-- A new span may bring a new map, and leaves the old ones alone. -/
theorem newSpan_dict (env : Env) (self : Nat) (parent : Option Nat) (cls : SpanClass) (op : String)
    (peer : Option String) (component : Option Component) {d : Nat} (hd : d < w.dicts.size) :
    (SpanContext.newSpan env self parent cls op peer component w).1.dicts.get d =
      w.dicts.get d := by
  cases hfinished : SpanContext.isFinished parent w with
  | false => rw [newSpan_of_not_finished env w self parent cls op peer component hfinished]
  | true =>
      cases parent with
      | none => cases hfinished
      | some parent =>
          have hdepth : (w.span parent).depth = 0 := by
            simpa [SpanContext.isFinished] using hfinished
          rw [newSpan_of_finished env w self cls op peer component hdepth]
          dsimp only
          rw [extractReal_dicts]
          exact Store.get_alloc_of_lt _ _ hd

theorem Bounded.newSpan_top (hok : WorldOk env w) (hbounded : Bounded env w) (task self : Nat)
    (cls : SpanClass) (op : String) (peer : Option String) (component : Option Component) :
    Bounded env (SpanContext.newSpan env self (w.view task).getLast? cls op peer component
      (w.spansGet task)).1 := by
  have hget := hbounded.of_copies (Copies.spansGet task w)
  refine hget.newSpan (keeps_spansGet task hok).1 self ?_ cls op peer component
  intro p hp
  rw [spansGet_spans]
  exact hok.top_lt p hp

theorem Copies.ignored (hok : WorldOk env w) :
    Copies w (Span.newNoop w.contexts.size (SpanContext.newNoop w).1).1 :=
  (Copies.newNoop hok).trans (Copies.of_same rfl (fun _ => rfl) rfl rfl)

theorem Copies.spanNewNoop (self : Nat) (w : World) : Copies w (Span.newNoop self w).1 :=
  Copies.of_same rfl (fun _ => rfl) rfl rfl

theorem Bounded.call (hok : WorldOk env w) (hbounded : Bounded env w) (task self : Nat)
    (answers : Answers) {call : Call}
    (hcarrier : ∀ a ∈ call.carrier, a < w.carriers.size)
    (hmap : ∀ a ∈ call.carrier, call.Extracts task self answers w a →
      (w.dicts.get (w.carriers.get a).correlation).WithinLimits env) :
    Bounded env (call.run env task self answers w).1 := by
  have hnoop := hbounded.of_copies (Copies.spanNewNoop self w)
  have hignored := hbounded.of_copies (Copies.ignored hok)
  have hget := hbounded.of_copies (Copies.spansGet task w)
  cases call with
  | newLocalSpan op =>
      exact newLocalSpan_rule env task self answers op hnoop hbounded hignored
        (hbounded.newSpan_top hok task self .Span op none none)
  | newExitSpan op peer component inherit =>
      refine newExitSpan_rule env task self answers op peer component inherit hnoop hbounded hignored
        (fun parent => hget.of_copies (Copies.modifySpan parent _ _))
        (hbounded.newSpan_top hok task self .ExitSpan op peer component) ?_
      intro w' span inherit h
      exact h.of_copies (Copies.modifySpan span _ w')
  | newEntrySpan op carrier inherit =>
      have hnew := hbounded.newSpan_top hok task self .EntrySpan op none none
      refine newEntrySpan_made_rule env task self answers op carrier inherit hnoop hbounded hignored
        (fun parent => hget.of_copies (Copies.modifySpan parent _ _)) hnew ?_
      intro a span w' ha hmade heq hvalid
      have hcarriers := (newEntrySpan_target env heq).2
      have hd := hok.carrier_lt a (hcarrier a ha)
      have hdict := newSpan_dict (w := w.spansGet task) env self (w.view task).getLast? .EntrySpan
        op none none (by rwa [spansGet_dicts])
      rw [heq] at hdict hnew
      rw [hcarriers] at hvalid ⊢
      rw [spansGet_dicts] at hdict
      refine hnew.extractReal ?_
      rw [hdict]
      exact hmap a ha ⟨ha, hmade, hvalid⟩

/-- A write to the map of a context is seen by all that share it, and by nobody else. -/
theorem Bounded.modifyDict (hok : WorldOk env w) (hbounded : Bounded env w) {self : Nat}
    (hself : self < w.contexts.size) {f : Correlation → Correlation}
    (hwithin : (f (SpanContext.dict w self)).WithinLimits env) :
    Bounded env { w with dicts := w.dicts.modify (w.context self).correlation f } := by
  intro dict howned
  cases howned with
  | empty => exact hbounded _ .empty
  | context c hc =>
      by_cases hshared : (w.context c).correlation = (w.context self).correlation
      · have hsame : SpanContext.dict { w with
            dicts := w.dicts.modify (w.context self).correlation f } c =
              f (SpanContext.dict w self) := by
          have hmodify : (w.dicts.modify (w.context self).correlation f).get
              (w.context c).correlation = f (w.dicts.get (w.context self).correlation) := by
            rw [hshared, Store.get_modify_self]
          exact hmodify
        rw [hsame]
        exact hwithin
      · have hsame : SpanContext.dict { w with
            dicts := w.dicts.modify (w.context self).correlation f } c = SpanContext.dict w c :=
          Store.get_modify_of_ne _ _ hshared
        rw [hsame]
        exact hbounded _ (.context c hc)
  | snapshot a ha =>
      have hprivate := hok.snapshot_context a ha self hself
      have hsame : (w.dicts.modify (w.context self).correlation f).get
          (w.snapshots.get a).correlation = w.dicts.get (w.snapshots.get a).correlation :=
        Store.get_modify_of_ne _ _ hprivate.symm
      dsimp only
      rw [hsame]
      exact hbounded _ (.snapshot a ha)

theorem isFromCurrent_eq_false {task self : Nat} (hreal : (w.context self).noop = false)
    {snapshot : Snapshot} (hsome : snapshot.segmentId.isSome = true)
    (h : (SpanContext.isFromCurrent task self snapshot w).2 = .ok false) :
    w.view task ≠ [] ∧ snapshot.segmentId ≠ some (w.context self).segment.segmentId.value := by
  obtain ⟨segmentId, hid⟩ := Option.isSome_iff_exists.mp hsome
  have hnoop : ¬ (w.context self).noop = true := by simp [hreal]
  unfold SpanContext.isFromCurrent at h
  rw [hid] at h
  dsimp only at h
  cases hview : w.view task with
  | nil =>
      have hcapture : SpanContext.capture task self w = (w.spansGet task, none) := by
        unfold SpanContext.capture
        dsimp only
        rw [if_neg hnoop, hview]
      rw [hcapture] at h
      cases h
  | cons bottom rest =>
      obtain ⟨top, htop⟩ : ∃ top, (w.view task).getLast? = some top := by
        rw [hview]
        exact ⟨_, List.getLast?_eq_getLast_of_ne_nil (by simp)⟩
      have hbottom : (w.view task).head? = some bottom := by rw [hview]; rfl
      have hcapture := capture_eq hreal htop hbottom
      rw [hcapture] at h
      refine ⟨by simp, ?_⟩
      rw [hid]
      intro hsame
      simp only [Store.get_alloc_size, snapshotOf, Except.ok.injEq, decide_eq_false_iff_not] at h
      exact h hsame

/-- Without a merge, `continued` does no more than compare the snapshot with a new one. -/
theorem continued_of_not_merges {task self snapshot : Nat} (hreal : (w.context self).noop = false)
    (hnot : ¬ SpanContext.Merges task self (w.snapshots.get snapshot) w) :
    (SpanContext.continued env task self snapshot w).1 =
      (SpanContext.isFromCurrent task self (w.snapshots.get snapshot) w).1 := by
  by_cases hvalid : SpanContext.isValidSnapshot (w.snapshots.get snapshot) = true
  · have hsome : (w.snapshots.get snapshot).segmentId.isSome = true := by
      simp only [SpanContext.isValidSnapshot, Bool.and_eq_true] at hvalid
      exact hvalid.1.1
    unfold SpanContext.continued
    dsimp only
    rw [if_neg (by simp [hreal])]
    split
    · next heq => rw [heq]
    · next heq => rw [heq]
    · next heq =>
      obtain ⟨hview, hother⟩ := isFromCurrent_eq_false hreal hsome (congrArg Prod.snd heq)
      exact absurd (.inr ⟨hview, hvalid, hother⟩) hnot
  · exact continued_of_invalid env hreal (by simpa using hvalid)

theorem Bounded.updateCorrelation (hok : WorldOk env w) (hbounded : Bounded env w) {self : Nat}
    (hself : self < w.contexts.size) {snapshot : Snapshot}
    (howned : Owned w (w.dicts.get snapshot.correlation))
    (hfits : SpanContext.MergeFits env (SpanContext.dict w self)
      (w.dicts.get snapshot.correlation)) :
    Bounded env (SpanContext.updateCorrelation self snapshot w) := by
  refine hbounded.modifyDict hok hself ?_
  have hdict := hbounded _ (.context self hself)
  exact hdict.update (hbounded _ howned) hfits

/-- The context is related before the maps are merged. -/
theorem Bounded.relate_update (hok : WorldOk env w) (hbounded : Bounded env w) {self : Nat}
    (hself : self < w.contexts.size) {snapshot : Nat} (hsnapshot : snapshot < w.snapshots.size)
    (span : Nat) (ref : SegmentRef)
    (hfits : SpanContext.MergeFits env (SpanContext.dict w self)
      (w.dicts.get (w.snapshots.get snapshot).correlation)) :
    Bounded env (SpanContext.updateCorrelation self (w.snapshots.get snapshot)
      ((Span.idOf env ref.traceId (w.modifySpan span (Span.addRef ref))).1.modifyContext self
        (SpanContext.relate
          (Span.idOf env ref.traceId (w.modifySpan span (Span.addRef ref))).2))) := by
  have href : Keeps env w (w.modifySpan span (Span.addRef ref)) :=
    .modifySpan span fun _ => ⟨rfl, rfl⟩
  obtain ⟨hid, hvalue, hcls⟩ := keeps_idOf env (w.modifySpan span (Span.addRef ref)) ref.traceId
  have hok' := (((href.trans hid).trans (.relate self hvalue (by simp [hcls]))) hok).1
  obtain ⟨hdicts, hsnapshots⟩ := idOf_stores env ref.traceId (w.modifySpan span (Span.addRef ref))
  have hcontexts := idOf_contexts env ref.traceId (w.modifySpan span (Span.addRef ref))
  generalize Span.idOf env ref.traceId (w.modifySpan span (Span.addRef ref)) = result at *
  obtain ⟨w₁, traceId⟩ := result
  dsimp only at *
  have hsize : (w₁.modifyContext self (SpanContext.relate traceId)).contexts.size =
      w.contexts.size := by
    simp only [World.modifyContext, Store.size_modify, hcontexts]
    rfl
  have hmap : ∀ c, ((w₁.modifyContext self (SpanContext.relate traceId)).context c).correlation =
      (w.context c).correlation := by
    intro c
    simp only [World.context, World.modifyContext, Store.get_modify, hcontexts]
    split <;> rfl
  have hcopies : Copies w (w₁.modifyContext self (SpanContext.relate traceId)) :=
    .of_same hsize hmap hdicts hsnapshots
  have hdict : (w₁.modifyContext self (SpanContext.relate traceId)).dicts = w.dicts := hdicts
  have hsnaps : (w₁.modifyContext self (SpanContext.relate traceId)).snapshots = w.snapshots :=
    hsnapshots
  refine (hbounded.of_copies hcopies).updateCorrelation hok' (hsize ▸ hself) ?_ ?_
  · rw [← hsnaps]
    exact .snapshot snapshot (by rw [hsnaps]; exact hsnapshot)
  · rw [SpanContext.dict, hmap, hdict]
    exact hfits

theorem Bounded.continued (hok : WorldOk env w) (hbounded : Bounded env w) {task self : Nat}
    (hself : self < w.contexts.size) {snapshot : Nat} (hsnapshot : snapshot < w.snapshots.size)
    (hfits : SpanContext.Merges task self (w.snapshots.get snapshot) w →
      SpanContext.MergeFits env (SpanContext.dict w self)
        (w.dicts.get (w.snapshots.get snapshot).correlation)) :
    Bounded env (SpanContext.continued env task self snapshot w).1 := by
  cases hreal : (w.context self).noop with
  | true =>
      unfold SpanContext.continued
      dsimp only
      rw [if_pos hreal]
      exact hbounded.updateCorrelation hok hself (.snapshot snapshot hsnapshot) (hfits (.inl hreal))
  | false =>
      by_cases hmerges : SpanContext.Merges task self (w.snapshots.get snapshot) w
      · have hcurrent := hbounded.of_copies
          (Copies.isFromCurrent hok task hself (w.snapshots.get snapshot))
        have hcontexts := isFromCurrent_contexts task self (w.snapshots.get snapshot) w
        have hdicts := (Unmoved.isFromCurrent task self (w.snapshots.get snapshot)
          (le_refl w.dicts.size)).dict
        have hkeeps : Keeps env w
            (SpanContext.isFromCurrent task self (w.snapshots.get snapshot) w).1 :=
          keeps_isFromCurrent task self (w.snapshots.get snapshot)
        obtain ⟨hok₁, hevolves⟩ := hkeeps hok
        have hsnap := hevolves.snapshot_same snapshot hsnapshot
        have hmap := hok.correlation_lt self hself
        have hcopy := hevolves.snapshot_dict snapshot hsnapshot
        unfold SpanContext.continued
        dsimp only
        rw [if_neg (by simp [hreal])]
        generalize SpanContext.isFromCurrent task self (w.snapshots.get snapshot) w = result at *
        obtain ⟨w₁, answer⟩ := result
        dsimp only at *
        have hfits₁ : SpanContext.MergeFits env (SpanContext.dict w₁ self)
            (w₁.dicts.get (w₁.snapshots.get snapshot).correlation) := by
          have hcontext : w₁.context self = w.context self := by
            simp only [World.context, hcontexts]
          rw [hsnap, hcopy, SpanContext.dict, hcontext, hdicts _ hmap]
          exact hfits hmerges
        cases answer with
        | error error => exact hcurrent
        | ok fromCurrent =>
            cases fromCurrent with
            | true => exact hcurrent
            | false =>
                dsimp only
                split
                · split
                  · exact hcurrent
                  · next ref _ =>
                    split
                    · exact hcurrent
                    · next span _ =>
                      rw [← hsnap]
                      exact hcurrent.relate_update hok₁ (by rw [hcontexts]; exact hself)
                        (hsnapshot.trans_le hevolves.snapshots_le) span ref hfits₁
                · exact hcurrent
      · rw [continued_of_not_merges hreal hmerges]
        exact hbounded.of_copies (Copies.isFromCurrent hok task hself _)

theorem Bounded.action (hok : WorldOk env w) (hbounded : Bounded env w) {action : ApiAction}
    (henabled : action.Enabled w) (hstays : StaysWithin env w action) :
    Bounded env (action.run env w) := by
  cases action with
  | spawn creator child => exact hbounded.of_copies (.of_same rfl (fun _ => rfl) rfl rfl)
  | thread child => exact hbounded.of_copies (.of_same rfl (fun _ => rfl) rfl rfl)
  | getContext task sampled => exact hbounded.of_copies (Copies.getContext hok task sampled)
  | newSpan task self answers call =>
      exact hbounded.call hok task _ answers henabled.2 hstays
  | start task span => exact hbounded.of_copies (Copies.start task span w)
  | stop task span queueFull => exact hbounded.of_copies (Copies.stop task span queueFull w)
  | raised span traceback => exact hbounded.of_copies (Copies.modifySpan span _ w)
  | edit span change => exact hbounded.of_copies (Copies.edit env span change w)
  | inject span => exact hbounded.of_copies (Copies.inject hok span)
  | receive sw8 correlation => exact hbounded.of_copies (Copies.receive hok sw8 correlation)
  | extract span carrier =>
      dsimp only [ApiAction.run]
      unfold Span.extract
      by_cases hnoop : (w.span span).cls = .NoopSpan
      · rw [if_pos hnoop]
        exact hbounded
      · rw [if_neg hnoop]
        exact hbounded.extractReal (hstays hnoop)
  | putCorrelation self key value =>
      refine hbounded.modifyDict hok henabled ?_
      have hdict := hbounded _ (.context self henabled)
      exact hdict.putDict hstays
  | capture task self => exact hbounded.of_copies (Copies.capture hok task henabled)
  | continued task self snapshot => exact hbounded.continued hok henabled.1 henabled.2 hstays
  | wait seconds => exact hbounded.of_copies (.of_same rfl (fun _ => rfl) rfl rfl)

/-- **Limits.** In a run without a step that takes a map beyond its limits, every context stays within
them, and puts to keys that are there take effect. -/
theorem correlation_keeps_limits (env : Env) (hmax : 0 ≤ env.correlationElementMaxNumber)
    {actions : List ApiAction} {w : World}
    (hrun : Run (Guarded (StaysWithin env) (ApiStep env)) .init actions w) {c : Nat}
    (hc : c < w.contexts.size) : SpanContext.KeepsLimits env w c := by
  have hinv : WorldOk env w ∧ Bounded env w := by
    refine hrun.invariant (I := fun w => WorldOk env w ∧ Bounded env w) ?_ ⟨worldOk_init env, ?_⟩
    · rintro w action w' ⟨hok, hbounded⟩ ⟨hstays, henabled, rfl⟩
      exact ⟨(keeps_action henabled hok).1, hbounded.action hok henabled hstays⟩
    · intro dict howned
      cases howned with
      | empty => exact .nil hmax
      | context c hc => cases hc
      | snapshot a ha => cases ha
  have hwithin := hinv.2 _ (.context c hc)
  refine ⟨hwithin, fun key value _ hvalue => ?_⟩
  have hput : (SpanContext.putDict env (some key) (some value) (SpanContext.dict w c)).lookup key =
      some value := hwithin.lookup_putDict hvalue
  have hdict : (w.dicts.modify (w.context c).correlation
      (SpanContext.putDict env (some key) (some value))).get (w.context c).correlation =
        SpanContext.putDict env (some key) (some value) (SpanContext.dict w c) :=
    Store.get_modify_self _ _ _
  rw [← hdict] at hput
  exact hput

/-- The limit is reached, an old entry is replaced, the map of a header is taken over, and the snapshot
of the first map has room in another context. -/
def modestActions : List ApiAction :=
  [.getContext 0 true, .newSpan 0 0 ⟨false, false⟩ (.newEntrySpan "first" none none), .start 0 0,
    .putCorrelation 0 (some "a") (some "1"), .putCorrelation 0 (some "b") (some "2"),
    .putCorrelation 0 (some "c") (some "3"), .putCorrelation 0 (some "a") (some "4"),
    .capture 0 0, .receive "" "azE=:djE=", .extract 0 0, .putCorrelation 0 (some "d") none,
    .thread 1, .getContext 1 true,
    .newSpan 1 1 ⟨false, false⟩ (.newLocalSpan "second"), .start 1 1, .continued 1 1 0]

theorem modest_run_keeps_limits : ∃ w, 0 ≤ Env.sample.correlationElementMaxNumber ∧
    Run (Guarded (StaysWithin .sample) (ApiStep .sample)) .init modestActions w ∧
    1 < w.contexts.size ∧ (SpanContext.dict w 1).length = 3 ∧
    SpanContext.KeepsLimits .sample w 1 := by
  have htest : (runActions .sample (StaysWithin .sample) .init modestActions).any
      (fun w => decide (1 < w.contexts.size ∧ (SpanContext.dict w 1).length = 3)) = true := by
    decide +kernel
  obtain ⟨w, hw, hfinal⟩ := (Option.any_eq_true _ _).mp htest
  obtain ⟨hc, hlength⟩ := of_decide_eq_true hfinal
  have hrun := run_of_runActions .sample (StaysWithin .sample) modestActions hw
  exact ⟨w, by decide, hrun, hc, hlength,
    correlation_keeps_limits .sample (by decide) hrun hc⟩

/-- Four puts, with room for three. -/
def greedyActions : List ApiAction :=
  [.getContext 0 true, .putCorrelation 0 (some "a") (some "1"),
    .putCorrelation 0 (some "b") (some "2"), .putCorrelation 0 (some "c") (some "3"),
    .putCorrelation 0 (some "d") (some "4")]

/-- The fourth entry is let in, and then none of the four can be changed any more. -/
theorem greedy_run_exceeds_limit : ∃ w, Reachable .sample w ∧ 0 < w.contexts.size ∧
    (SpanContext.dict w 0).length = 4 ∧ "a" ∈ (SpanContext.dict w 0).map Prod.fst ∧
    SpanContext.getCorrelation 0 "a"
      (SpanContext.putCorrelation .sample 0 (some "a") (some "new") w) = some "1" ∧
    ¬ SpanContext.KeepsLimits .sample w 0 := by
  have hresult : ∃ w, Reachable .sample w ∧ 0 < w.contexts.size ∧
      (SpanContext.dict w 0).length = 4 ∧ "a" ∈ (SpanContext.dict w 0).map Prod.fst ∧
      SpanContext.getCorrelation 0 "a"
        (SpanContext.putCorrelation .sample 0 (some "a") (some "new") w) = some "1" := by
    apply exists_reachable greedyActions
    decide +kernel
  obtain ⟨w, hreach, hc, hlength, hkey, hrefused⟩ := hresult
  refine ⟨w, hreach, hc, hlength, hkey, hrefused, fun h => ?_⟩
  have hlimit := h.1.1
  rw [hlength] at hlimit
  exact absurd hlimit (by decide)

end SkyWalking
