import SkyWalking.Trace.Propagation

/-!
# Assigning received headers
-/

namespace SkyWalking

section Header

variable {val version traceId segmentId spanId service serviceInstance endpoint clientAddress : String}

theorem not_headerReadable
    (hsplit : Text.split '-' val = [version, traceId, segmentId, spanId, service, serviceInstance,
      endpoint, clientAddress]) {part : String} {error : PyError}
    (herror : b64decode part = .error error)
    (hpart : part ∈ [traceId, segmentId, service, serviceInstance, endpoint, clientAddress]) :
    ¬ HeaderReadable val := by
  intro hreadable
  obtain ⟨text, htext⟩ := hreadable _ _ _ _ _ _ _ _ hsplit part hpart
  rw [herror] at htext
  cases htext

/-- A header that has not eight parts can be read: there is nothing to decode. -/
theorem headerReadable_of_not_parts
    (h : ∀ version traceId segmentId spanId service serviceInstance endpoint clientAddress,
      Text.split '-' val ≠ [version, traceId, segmentId, spanId, service, serviceInstance, endpoint,
        clientAddress]) : HeaderReadable val :=
  fun _ _ _ _ _ _ _ _ hsplit => absurd hsplit (h _ _ _ _ _ _ _ _)

end Header

/-- The setter returns if and only if every encoded part can be decoded, and then all fields are taken
over or none. -/
theorem Carrier.setVal_cases (carrier : Carrier) (val : String) :
    HeaderReadable val ∧ carrier.SetsAtOnce val ∨
      ¬ HeaderReadable val ∧ (carrier.setVal val).2 ≠ .ok () := by
  unfold Carrier.SetsAtOnce
  unfold Carrier.setVal
  dsimp only
  by_cases hempty : val = ""
  · left
    rw [if_pos hempty]
    refine ⟨headerReadable_of_not_parts fun _ _ _ _ _ _ _ _ h => ?_, rfl,
      .inr ⟨rfl, rfl, rfl, rfl, rfl, rfl, rfl⟩⟩
    rw [hempty] at h
    simp [Text.split] at h
  rw [if_neg hempty]
  split
  · next version traceId segmentId spanId service serviceInstance endpoint clientAddress hsplit =>
    have hnot : ∀ part error, b64decode part = .error error →
        part ∈ [traceId, segmentId, service, serviceInstance, endpoint, clientAddress] →
        ¬ HeaderReadable val := fun part error => not_headerReadable hsplit
    -- the parts are decoded one after the other: the first that fails ends the assignment
    cases htrace : b64decode traceId with
    | error error => exact .inr ⟨hnot _ _ htrace (by simp), by simp⟩
    | ok traceId' =>
    cases hsegment : b64decode segmentId with
    | error error => exact .inr ⟨hnot _ _ hsegment (by simp), by simp⟩
    | ok segmentId' =>
    cases hservice : b64decode service with
    | error error => exact .inr ⟨hnot _ _ hservice (by simp), by simp⟩
    | ok service' =>
    cases hinstance : b64decode serviceInstance with
    | error error => exact .inr ⟨hnot _ _ hinstance (by simp), by simp⟩
    | ok serviceInstance' =>
    cases hendpoint : b64decode endpoint with
    | error error => exact .inr ⟨hnot _ _ hendpoint (by simp), by simp⟩
    | ok endpoint' =>
    cases hclient : b64decode clientAddress with
    | error error => exact .inr ⟨hnot _ _ hclient (by simp), by simp⟩
    | ok clientAddress' =>
    refine .inl ⟨?_, rfl, .inl ⟨version, traceId, segmentId, spanId, service, serviceInstance,
      endpoint, clientAddress, hsplit, htrace, hsegment, rfl, hservice, hinstance,
      ⟨endpoint', hendpoint, rfl⟩, clientAddress', hclient, rfl⟩⟩
    intro _ _ _ _ _ _ _ _ hsplit' part hpart
    rw [hsplit] at hsplit'
    cases hsplit'
    simp only [List.mem_cons, List.not_mem_nil, or_false] at hpart
    rcases hpart with rfl | rfl | rfl | rfl | rfl | rfl
    · exact ⟨_, htrace⟩
    · exact ⟨_, hsegment⟩
    · exact ⟨_, hservice⟩
    · exact ⟨_, hinstance⟩
    · exact ⟨_, hendpoint⟩
    · exact ⟨_, hclient⟩
  · next hparts =>
    exact .inl ⟨headerReadable_of_not_parts hparts, rfl, .inr ⟨rfl, rfl, rfl, rfl, rfl, rfl, rfl⟩⟩

section Entries

variable {env : Env} {dict : Correlation}

theorem Correlation.accept_of_full (hfull : env.correlationElementMaxNumber < dict.length)
    (entries : List String) : dict.accept env entries = dict := by
  cases entries with
  | nil => rfl
  | cons per rest => rw [Correlation.accept, if_pos hfull]

/-- Readability of a list is that of its first entry, in the map as it is, and of the others in the map
that the first one leaves. -/
theorem Correlation.entriesReadable_cons {per : String} {rest : List String} :
    Correlation.EntriesReadable env dict (per :: rest) ↔
      (∀ key value, Text.split ':' per = [key, value] →
        (dict.length : Int) ≤ env.correlationElementMaxNumber →
        (∃ text, b64decode key = .ok text) ∧ ∃ text, b64decode value = .ok text) ∧
      ∀ before per' after key value, rest = before ++ per' :: after →
        Text.split ':' per' = [key, value] →
        ((dict.accept env (per :: before)).length : Int) ≤ env.correlationElementMaxNumber →
        (∃ text, b64decode key = .ok text) ∧ ∃ text, b64decode value = .ok text := by
  constructor
  · intro h
    exact ⟨fun key value => h [] per rest key value rfl,
      fun before per' after key value heq => h (per :: before) per' after key value (by simp [heq])⟩
  · rintro ⟨hfirst, hrest⟩ before per' after key value heq
    cases before with
    | nil =>
        obtain ⟨rfl, rfl⟩ := List.cons.inj heq
        exact hfirst key value
    | cons first before =>
        obtain ⟨rfl, hrest'⟩ := List.cons.inj heq
        exact hrest before per' after key value hrest'

theorem Correlation.setEntries_cases (entries : List String) : ∀ dict : Correlation,
    Correlation.EntriesReadable env dict entries ∧
        Correlation.setEntries env dict entries = (dict.accept env entries, .ok ()) ∨
      ¬ Correlation.EntriesReadable env dict entries ∧
        (Correlation.setEntries env dict entries).2 ≠ .ok () := by
  induction entries with
  | nil =>
      intro dict
      exact .inl ⟨fun before _ _ _ _ heq => absurd heq (by simp), rfl⟩
  | cons per rest ih =>
      intro dict
      by_cases hfull : env.correlationElementMaxNumber < dict.length
      · left
        refine ⟨?_, ?_⟩
        · intro before _ _ _ _ _ _ hroom
          rw [Correlation.accept_of_full hfull] at hroom
          omega
        · rw [Correlation.setEntries, Correlation.accept, if_pos hfull, if_pos hfull]
      have hroom : (dict.length : Int) ≤ env.correlationElementMaxNumber := by omega
      rw [Correlation.entriesReadable_cons]
      by_cases hpair : ∃ key value, Text.split ':' per = [key, value]
      · obtain ⟨key, value, hsplit⟩ := hpair
        have hunreadable : ∀ part ∈ [key, value], ∀ error, b64decode part = .error error →
            ¬ ((∃ text, b64decode key = .ok text) ∧ ∃ text, b64decode value = .ok text) := by
          rintro part hpart error herror ⟨⟨key', hkey⟩, value', hvalue⟩
          simp only [List.mem_cons, List.not_mem_nil, or_false] at hpart
          rcases hpart with rfl | rfl
          · rw [hkey] at herror
            cases herror
          · rw [hvalue] at herror
            cases herror
        cases hvalue : b64decode value with
        | error error =>
            right
            refine ⟨fun h => hunreadable value (by simp) error hvalue (h.1 key value hsplit hroom), ?_⟩
            simp [Correlation.setEntries, hfull, hsplit, hvalue]
        | ok value' =>
        cases hkey : b64decode key with
        | error error =>
            right
            refine ⟨fun h => hunreadable key (by simp) error hkey (h.1 key value hsplit hroom), ?_⟩
            simp [Correlation.setEntries, hfull, hsplit, hvalue, hkey]
        | ok key' =>
            have haccept : ∀ before, dict.accept env (per :: before) =
                (dict.insert key' value').accept env before := by
              intro before
              simp [Correlation.accept, hfull, hsplit, hvalue, hkey]
            have hset : Correlation.setEntries env dict (per :: rest) =
                Correlation.setEntries env (dict.insert key' value') rest := by
              simp [Correlation.setEntries, hfull, hsplit, hvalue, hkey]
            simp only [haccept, hset]
            rcases ih (dict.insert key' value') with ⟨hreadable, heq⟩ | ⟨hnot, hraises⟩
            · refine .inl ⟨⟨?_, hreadable⟩, heq⟩
              intro key₁ value₁ hsplit₁ _
              rw [hsplit] at hsplit₁
              cases hsplit₁
              exact ⟨⟨_, hkey⟩, _, hvalue⟩
            · exact .inr ⟨fun h => hnot h.2, hraises⟩
      · have haccept : ∀ before, dict.accept env (per :: before) = dict.accept env before := by
          intro before
          rw [Correlation.accept, if_neg hfull]
          split
          · next key value hsplit => exact absurd ⟨key, value, hsplit⟩ hpair
          · rfl
        have hset : Correlation.setEntries env dict (per :: rest) =
            Correlation.setEntries env dict rest := by
          rw [Correlation.setEntries, if_neg hfull]
          split
          · next key value hsplit => exact absurd ⟨key, value, hsplit⟩ hpair
          · rfl
        simp only [haccept, hset]
        rcases ih dict with ⟨hreadable, heq⟩ | ⟨hnot, hraises⟩
        · exact .inl ⟨⟨fun key value hsplit => absurd ⟨key, value, hsplit⟩ hpair, hreadable⟩, heq⟩
        · exact .inr ⟨fun h => hnot h.2, hraises⟩

theorem Correlation.setVal_eq (dict : Correlation) (val : String) :
    dict.setVal env val = Correlation.setEntries env dict (Correlation.entries val) := by
  unfold Correlation.setVal Correlation.entries
  split <;> rfl

end Entries

/-- **Assigning a received header** returns and is atomic exactly if the encoded parts of the header,
and the pairs of the correlation header that are reached within the limit, can be decoded. -/
theorem setters_atomic_iff (carrier : Carrier) (env : Env) (dict : Correlation) (sw8 val : String) :
    (carrier.SetsAtOnce sw8 ↔ HeaderReadable sw8) ∧
      (dict.SetsAtOnce env val ↔ dict.EntriesReadable env (Correlation.entries val)) := by
  constructor
  · rcases carrier.setVal_cases sw8 with ⟨hreadable, hsets⟩ | ⟨hnot, hraises⟩
    · exact ⟨fun _ => hreadable, fun _ => hsets⟩
    · exact ⟨fun h => absurd h.1 hraises, fun h => absurd h hnot⟩
  · unfold Correlation.SetsAtOnce
    rw [Correlation.setVal_eq]
    rcases Correlation.setEntries_cases (Correlation.entries val) dict with
      ⟨hreadable, heq⟩ | ⟨hnot, hraises⟩
    · rw [heq]
      exact ⟨fun _ => hreadable, fun _ => ⟨rfl, .inl rfl⟩⟩
    · exact ⟨fun h => absurd h.1 hraises, fun h => absurd h hnot⟩

/-- The second encoded part has one character too many for whole bytes: the trace id is assigned, then
the setter raises. The value of the second entry has the same defect. -/
theorem undecodable_headers_raise :
    ((Carrier.fresh 0).setVal "1-YQ==-a-0-a-a-a-a").1.traceId = "a" ∧
      ¬ (Carrier.fresh 0).SetsAtOnce "1-YQ==-a-0-a-a-a-a" ∧
      (Correlation.setVal .sample [] "YQ==:Yg==,Yw==:a").1 = [("a", "b")] ∧
      ¬ Correlation.SetsAtOnce .sample [] "YQ==:Yg==,Yw==:a" := by
  have hcarrier : ((Carrier.fresh 0).setVal "1-YQ==-a-0-a-a-a-a").2 ≠ .ok () := by decide +kernel
  have hdict : (Correlation.setVal .sample [] "YQ==:Yg==,Yw==:a").2 ≠ .ok () := by decide +kernel
  exact ⟨by decide +kernel, fun h => hcarrier h.1, by decide +kernel, fun h => hdict h.1⟩

end SkyWalking
