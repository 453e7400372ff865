import SkyWalking.Trace.Carrier

/-!
# Headers read back

What `Carrier.val` and `SW8CorrelationCarrier.val` write, their setters read.
-/

namespace SkyWalking

theorem b64encode_toList (s : String) :
    (b64encode s).toList = Base64.encode s.toByteArray.data.toList := String.toList_ofList

theorem b64decode_b64encode (s : String) : b64decode (b64encode s) = .ok s := by
  have hascii : (b64encode s).toList.all (·.toNat < 128) = true := by
    rw [List.all_eq_true, b64encode_toList]
    intro c hc
    exact decide_eq_true (Base64.isCode_ascii (Base64.isCode_of_mem_encode _ c hc))
  have hutf8 : String.fromUTF8? s.toByteArray = some s := by
    rw [String.fromUTF8?, dif_pos s.isValidUTF8]
    rfl
  rw [b64decode, if_pos hascii, b64encode_toList, Base64.decode_encode]
  simp only [Array.toArray_toList]
  rw [hutf8]

theorem not_mem_b64encode {c : Char} (hc : ¬ Base64.IsCode c) (s : String) :
    c ∉ (b64encode s).toList := by
  rw [b64encode_toList]
  exact Base64.not_mem_encode hc _

theorem andThen_eq_ok_true {left right : Except PyError Bool} :
    andThen left right = .ok true ↔ left = .ok true ∧ right = .ok true := by
  unfold andThen
  split
  · simp
  · next hleft => exact ⟨fun h => absurd h hleft, fun h => absurd h.1 hleft⟩

theorem lenPos_eq_ok_true {text : Option String} :
    lenPos text = .ok true ↔ ∃ s, text = some s ∧ s ≠ "" := by
  cases text with
  | none => simp [lenPos]
  | some s => simp [lenPos, Nat.pos_iff_ne_zero, String.length_eq_zero_iff]

theorem Carrier.isValid_eq_ok_true {carrier : Carrier} :
    carrier.isValid = .ok true ↔ carrier.traceId ≠ "" ∧ carrier.segmentId ≠ "" ∧
      carrier.service ≠ "" ∧ carrier.serviceInstance ≠ "" ∧
      (∃ s, carrier.endpoint = some s ∧ s ≠ "") ∧
      (∃ s, carrier.clientAddress = some s ∧ s ≠ "") ∧ carrier.spanId.isnumeric = .ok true := by
  simp only [Carrier.isValid, andThen_eq_ok_true, lenPos_eq_ok_true, Option.some.injEq,
    exists_eq_left']

theorem not_isCode_dash : ¬ Base64.IsCode '-' := by decide

theorem not_isCode_comma : ¬ Base64.IsCode ',' := by decide

theorem not_isCode_colon : ¬ Base64.IsCode ':' := by decide

theorem Carrier.setVal_getVal (carrier : Carrier) {spanId endpoint clientAddress : String}
    (hspanId : carrier.spanId = .str spanId) (hdash : '-' ∉ spanId.toList)
    (hendpoint : carrier.endpoint = some endpoint)
    (hclient : carrier.clientAddress = some clientAddress) :
    ∃ val, carrier.getVal = .ok val ∧ ∀ correlation,
      (Carrier.fresh correlation).setVal val =
        ({ carrier with val := some val, correlation := correlation }, .ok ()) := by
  obtain ⟨_, traceId, segmentId, _, service, serviceInstance, _, _, _⟩ := carrier
  dsimp only at hspanId hendpoint hclient
  subst hspanId hendpoint hclient
  have hcode : ∀ text, '-' ∉ (b64encode text).toList := not_mem_b64encode not_isCode_dash
  have hparts : ∀ part ∈ ["1", b64encode traceId, b64encode segmentId, spanId, b64encode service,
      b64encode serviceInstance, b64encode endpoint, b64encode clientAddress],
      '-' ∉ part.toList := by
    simp only [List.mem_cons, List.not_mem_nil, or_false, forall_eq_or_imp, forall_eq]
    exact ⟨by decide, hcode _, hcode _, hdash, hcode _, hcode _, hcode _, hcode _⟩
  refine ⟨_, rfl, fun correlation => ?_⟩
  unfold Carrier.setVal
  rw [if_neg (Text.join_ne_empty (by decide)), Text.split_join (by simp) hparts]
  simp only [b64decode_b64encode, Carrier.fresh]

theorem Correlation.insert_of_new {dict : Correlation} {key : String} (value : String)
    (hnew : key ∉ dict.map Prod.fst) : dict.insert key value = dict ++ [(key, value)] :=
  if_neg hnew

theorem Correlation.mem_insert {dict : Correlation} {key value : String} {entry : String × String}
    (h : entry ∈ dict.insert key value) :
    entry = (key, value) ∨ entry ∈ dict := by
  unfold Correlation.insert at h
  split at h
  · obtain ⟨old, hold, rfl⟩ := List.mem_map.mp h
    split
    · exact .inl rfl
    · exact .inr hold
  · obtain h | h := List.mem_append.mp h
    · exact .inr h
    · exact .inl (List.mem_singleton.mp h)

/-- One entry as the getter writes it. -/
def Correlation.item (entry : String × String) : String :=
  Text.join ':' [b64encode entry.1, b64encode entry.2]

theorem Correlation.split_item (entry : String × String) :
    Text.split ':' (Correlation.item entry) = [b64encode entry.1, b64encode entry.2] := by
  refine Text.split_join (by simp) ?_
  simp only [List.mem_cons, List.not_mem_nil, or_false, forall_eq_or_imp, forall_eq]
  exact ⟨not_mem_b64encode not_isCode_colon _, not_mem_b64encode not_isCode_colon _⟩

theorem Correlation.not_mem_comma_item (entry : String × String) :
    ',' ∉ (Correlation.item entry).toList := by
  have hkey := not_mem_b64encode not_isCode_comma entry.1
  have hvalue := not_mem_b64encode not_isCode_comma entry.2
  simp [Correlation.item, Text.join, List.intercalate_cons_cons, hkey, hvalue]

/-- The loop reads entry after entry as long as there is room for them. -/
theorem Correlation.setEntries_items (env : Env) (entries : Correlation) :
    ∀ dict : Correlation, ((dict ++ entries).map Prod.fst).Nodup →
      ((dict ++ entries).length : Int) ≤ env.correlationElementMaxNumber + 1 →
      Correlation.setEntries env dict (entries.map Correlation.item) = (dict ++ entries, .ok ()) := by
  induction entries with
  | nil =>
      intro dict _ _
      rw [List.append_nil]
      rfl
  | cons entry rest ih =>
      intro dict hkeys hroom
      have hnew : entry.1 ∉ dict.map Prod.fst := by
        intro hmem
        rw [List.map_append, List.nodup_append] at hkeys
        exact hkeys.2.2 entry.1 hmem entry.1 (by simp) rfl
      have hfits : ¬ env.correlationElementMaxNumber < (dict.length : Int) := by
        simp only [List.length_append, List.length_cons] at hroom
        omega
      have happend : dict ++ entry :: rest = (dict ++ [entry]) ++ rest := by simp
      rw [happend] at hkeys hroom ⊢
      rw [List.map_cons, Correlation.setEntries, if_neg hfits, Correlation.split_item]
      simp only [b64decode_b64encode]
      rw [Correlation.insert_of_new _ hnew]
      exact ih _ hkeys hroom

theorem Correlation.setVal_getVal (env : Env) {dict : Correlation} (hkeys : (dict.map Prod.fst).Nodup)
    (hroom : (dict.length : Int) ≤ env.correlationElementMaxNumber + 1) :
    Correlation.setVal env [] dict.getVal = (dict, .ok ()) := by
  cases dict with
  | nil => rfl
  | cons entry rest =>
      have hval : Correlation.getVal (entry :: rest) =
          Text.join ',' ((entry :: rest).map Correlation.item) := rfl
      have hitem : Correlation.item entry ≠ "" := by
        intro hempty
        have hchars := congrArg String.toList hempty
        simp [Correlation.item, Text.join, List.intercalate_cons_cons] at hchars
      have hcomma : ∀ part ∈ (entry :: rest).map Correlation.item, ',' ∉ part.toList := by
        intro part hpart
        obtain ⟨entry', -, rfl⟩ := List.mem_map.mp hpart
        exact Correlation.not_mem_comma_item entry'
      have hne : Text.join ',' ((entry :: rest).map Correlation.item) ≠ "" := by
        rw [List.map_cons]
        exact Text.join_ne_empty hitem
      rw [hval, Correlation.setVal, if_neg hne, Text.split_join (by simp) hcomma]
      exact Correlation.setEntries_items env _ [] hkeys hroom

end SkyWalking
