import Mathlib.Data.Bool.AllAny
import SkyWalking.Proof.Chain
import SkyWalking.Trace.Kafka

/-!
# Record headers read back

The producer writes the bytes of an item value, the consumer assigns the literal of these bytes. The
setters skip the marks around a literal, but not the letter in front of it.
-/

namespace SkyWalking

/-- The parts of a text whose last one runs into the closing mark of a literal. -/
def closeLast : List String → List String
  | [] => []
  | [part] => [part ++ "'"]
  | part :: next :: rest => part :: closeLast (next :: rest)

/-- The parts that are found in the literal of a text. -/
def literalParts (parts : List String) : List String :=
  match closeLast parts with
  | [] => []
  | part :: rest => ("b'" ++ part) :: rest

theorem toList_join_cons (separator : Char) (text part : String) (rest : List String) :
    (Text.join separator ((text ++ part) :: rest)).toList =
      text.toList ++ (Text.join separator (part :: rest)).toList := by
  rw [Text.join, Text.join, String.toList_ofList, String.toList_ofList, List.map_cons, List.map_cons,
    String.toList_append, Text.intercalate_opening]

theorem toList_join_closeLast (separator : Char) {parts : List String} (hne : parts ≠ []) :
    (Text.join separator (closeLast parts)).toList =
      (Text.join separator parts).toList ++ [Bytes.apostrophe] := by
  induction parts using closeLast.induct with
  | case1 => exact absurd rfl hne
  | case2 part => simp [closeLast, Text.join, Bytes.apostrophe]
  | case3 part next rest ih =>
      have hrest := ih (by simp)
      cases hclose : closeLast (next :: rest) with
      | nil => cases rest <;> simp [closeLast] at hclose
      | cons next' rest' =>
          rw [hclose] at hrest
          simp only [Text.join, String.toList_ofList, List.map_cons] at hrest
          simp only [closeLast, hclose, Text.join, String.toList_ofList, List.map_cons,
            List.intercalate_cons_cons, hrest]
          simp

theorem isPlain_of_isCode {c : Char} (hc : Base64.IsCode c) : Bytes.IsPlain c := by
  have hplain : Base64.IsCode c → Bytes.IsPlain c := by
    apply Text.forall_ascii (P := fun c => Base64.IsCode c → Bytes.IsPlain c)
    · decide
    · exact Base64.isCode_ascii hc
  exact hplain hc

theorem isPlain_of_isDigit {c : Char} (hc : c.isDigit) : Bytes.IsPlain c := by
  have hplain : c.isDigit → Bytes.IsPlain c := by
    apply Text.forall_ascii (P := fun c => c.isDigit → Bytes.IsPlain c)
    · decide
    · exact (Char.isDigit_iff_toNat.mp hc).2.trans_lt (by decide)
  exact hplain hc

theorem isPlain_b64encode {s : String} : ∀ c ∈ (b64encode s).toList, Bytes.IsPlain c := by
  intro c hc
  rw [b64encode_toList] at hc
  exact isPlain_of_isCode (Base64.isCode_of_mem_encode _ c hc)

/-- The value of an item arrives as the literal of its bytes. -/
theorem str_join {separator : Char} {parts : List String} (hne : parts ≠ [])
    (hseparator : Bytes.IsPlain separator)
    (hparts : ∀ part ∈ parts, ∀ c ∈ part.toList, Bytes.IsPlain c) :
    Bytes.str (Bytes.ofText (Text.join separator parts)) =
      Text.join separator (literalParts parts) := by
  have hplain : ∀ c ∈ (Text.join separator parts).toList, Bytes.IsPlain c := by
    intro c hc
    obtain rfl | ⟨part, hpart, hc⟩ := Text.mem_join hc
    · exact hseparator
    · exact hparts part hpart c hc
  have hliteral : (Text.join separator (literalParts parts)).toList =
      'b' :: Bytes.apostrophe :: (Text.join separator parts).toList ++ [Bytes.apostrophe] := by
    have hclosed := toList_join_closeLast separator hne
    unfold literalParts
    split
    · next hclose =>
        rw [hclose] at hclosed
        simp [Text.join] at hclosed
    · next part rest hclose =>
        rw [toList_join_cons, ← hclose, hclosed]
        rfl
  have hstr := Bytes.str_ofText hplain
  rw [String.ofList_toList, ← hliteral, String.ofList_toList] at hstr
  exact hstr

theorem mem_closeLast {parts : List String} {part : String} (hpart : part ∈ closeLast parts) :
    ∃ written ∈ parts, part = written ∨ part = written ++ "'" := by
  induction parts using closeLast.induct with
  | case1 => cases hpart
  | case2 written =>
      obtain rfl := List.mem_singleton.mp hpart
      exact ⟨written, List.mem_cons_self, .inr rfl⟩
  | case3 written next rest ih =>
      obtain rfl | hpart := List.mem_cons.mp hpart
      · exact ⟨part, List.mem_cons_self, .inl rfl⟩
      · obtain ⟨written', hwritten', hcases⟩ := ih hpart
        exact ⟨written', List.mem_cons_of_mem _ hwritten', hcases⟩

theorem not_mem_literalParts {c : Char} (hc : c ∉ ['b', Bytes.apostrophe]) {parts : List String}
    (hparts : ∀ part ∈ parts, c ∉ part.toList) : ∀ part ∈ literalParts parts, c ∉ part.toList := by
  have hopen : c ∉ "b'".toList := hc
  have hapostrophe : c ∉ "'".toList := fun h => hc (List.mem_cons_of_mem _ h)
  have hclosed : ∀ part ∈ closeLast parts, c ∉ part.toList := by
    intro part hpart
    obtain ⟨written, hwritten, rfl | rfl⟩ := mem_closeLast hpart
    · exact hparts _ hwritten
    · rw [String.toList_append, List.mem_append, not_or]
      exact ⟨hparts _ hwritten, hapostrophe⟩
  intro part hpart
  unfold literalParts at hpart
  split at hpart
  · cases hpart
  · next first rest hclose =>
      rw [hclose] at hclosed
      obtain rfl | hpart := List.mem_cons.mp hpart
      · rw [String.toList_append, List.mem_append, not_or]
        exact ⟨hopen, hclosed first List.mem_cons_self⟩
      · exact hclosed part (List.mem_cons_of_mem _ hpart)

/-- A setter finds these parts in the value that arrives. -/
theorem split_str_join {separator : Char} {parts : List String} (hne : parts ≠ [])
    (hseparator : Bytes.IsPlain separator ∧ separator ∉ ['b', Bytes.apostrophe])
    (hplain : ∀ part ∈ parts, ∀ c ∈ part.toList, Bytes.IsPlain c)
    (hparts : ∀ part ∈ parts, separator ∉ part.toList) :
    Bytes.str (Bytes.ofText (Text.join separator parts)) ≠ "" ∧
      Text.split separator (Bytes.str (Bytes.ofText (Text.join separator parts))) =
        literalParts parts := by
  have hliteral : literalParts parts ≠ [] := by
    cases parts with
    | nil => exact absurd rfl hne
    | cons part rest => cases rest <;> simp [literalParts, closeLast]
  have hstr := str_join hne hseparator.1 hplain
  constructor
  · exact fun hempty => by simpa [Bytes.str] using congrArg String.toList hempty
  · rw [hstr]
    exact Text.split_join hliteral (not_mem_literalParts hseparator.2 hparts)

theorem not_isCode_apostrophe : ¬ Base64.IsCode Bytes.apostrophe := by decide

theorem b64decode_append_apostrophe (s : String) : b64decode (b64encode s ++ "'") = .ok s := by
  have hclose : (b64encode s ++ "'").toList = (b64encode s).toList ++ [Bytes.apostrophe] := by
    rw [String.toList_append]
    rfl
  have hascii : (b64encode s ++ "'").toList.all (·.toNat < 128) = true := by
    rw [List.all_eq_true, hclose]
    intro c hc
    obtain hc | hc := List.mem_append.mp hc
    · exact decide_eq_true ((isPlain_b64encode c hc).2.1.trans (by decide))
    · obtain rfl := List.mem_singleton.mp hc
      decide
  have hdecode : Base64.decode (b64encode s ++ "'").toList = Base64.decode (b64encode s).toList := by
    rw [hclose]
    exact Base64.decodeFrom_append_skip not_isCode_apostrophe _ 0 0 0
  have hplain := b64decode_b64encode s
  unfold b64decode at hplain ⊢
  rw [if_pos hascii, hdecode]
  split at hplain
  · cases hdecoded : Base64.decode (b64encode s).toList with
    | error error =>
        rw [hdecoded] at hplain
        cases hplain
    | ok bytes =>
        rw [hdecoded] at hplain
        exact hplain
  · cases hplain

/-- What is read behind the opening of a literal is not what was encoded. -/
theorem b64decode_opening_ne (s : String) : b64decode ("b'" ++ b64encode s) ≠ .ok s := by
  intro h
  have hopen : ("b'" ++ b64encode s).toList =
      Base64.sextetChar 27 :: Bytes.apostrophe :: Base64.encode s.toByteArray.data.toList := by
    rw [String.toList_append, b64encode_toList]
    rfl
  unfold b64decode at h
  rw [hopen] at h
  split at h
  · rw [Base64.decode, Base64.decodeFrom_zero _ (by decide),
      Base64.decodeFrom_skip not_isCode_apostrophe] at h
    split at h
    · cases h
    · next bytes hbytes =>
        have hlength := Base64.length_of_shifted _ _ _ hbytes
        split at h
        · next text htext =>
            obtain rfl := Except.ok.inj h
            rw [String.fromUTF8?] at htext
            split at htext
            · obtain rfl := Option.some.inj htext
              simp [String.fromUTF8] at hlength
            · cases htext
        · cases h
  · cases h

/-- The version is not looked at, and the mark behind the last part is skipped. -/
theorem setVal_literal {carrier : Carrier} {spanId endpoint clientAddress sw8 : String}
    (hspanId : carrier.spanId = .str spanId) (hdigits : ∀ c ∈ spanId.toList, c.isDigit)
    (hendpoint : carrier.endpoint = some endpoint)
    (hclient : carrier.clientAddress = some clientAddress) (hval : carrier.getVal = .ok sw8)
    (correlation : Nat) :
    (Carrier.fresh correlation).setVal (Bytes.str (Bytes.ofText sw8)) =
      (carrier.readBack (Bytes.str (Bytes.ofText sw8)) correlation, .ok ()) := by
  obtain ⟨_, traceId, segmentId, _, service, serviceInstance, _, _, _⟩ := carrier
  dsimp only at hspanId hendpoint hclient
  subst hspanId hendpoint hclient
  have hwritten : Text.join '-' ["1", b64encode traceId, b64encode segmentId, spanId,
      b64encode service, b64encode serviceInstance, b64encode endpoint,
      b64encode clientAddress] = sw8 := Except.ok.inj hval
  have hplain : ∀ part ∈ ["1", b64encode traceId, b64encode segmentId, spanId, b64encode service,
      b64encode serviceInstance, b64encode endpoint, b64encode clientAddress],
      ∀ c ∈ part.toList, Bytes.IsPlain c := by
    simp only [List.mem_cons, List.not_mem_nil, or_false, forall_eq_or_imp, forall_eq]
    exact ⟨List.all_iff_forall_prop.mp (by decide), isPlain_b64encode, isPlain_b64encode,
      fun c hc => isPlain_of_isDigit (hdigits c hc), isPlain_b64encode, isPlain_b64encode,
      isPlain_b64encode, isPlain_b64encode⟩
  have hcode : ∀ text, '-' ∉ (b64encode text).toList := not_mem_b64encode not_isCode_dash
  have hparts : ∀ part ∈ ["1", b64encode traceId, b64encode segmentId, spanId, b64encode service,
      b64encode serviceInstance, b64encode endpoint, b64encode clientAddress],
      '-' ∉ part.toList := by
    simp only [List.mem_cons, List.not_mem_nil, or_false, forall_eq_or_imp, forall_eq]
    exact ⟨by decide, hcode _, hcode _, fun hdash => absurd (hdigits _ hdash) (by decide),
      hcode _, hcode _, hcode _, hcode _⟩
  obtain ⟨hne, hsplit⟩ := split_str_join (by simp) (by decide) hplain hparts
  rw [hwritten] at hne hsplit
  have hliteral : Text.split '-' (Bytes.str (Bytes.ofText sw8)) = ["b'1", b64encode traceId,
      b64encode segmentId, spanId, b64encode service, b64encode serviceInstance,
      b64encode endpoint, b64encode clientAddress ++ "'"] := hsplit
  unfold Carrier.setVal
  rw [if_neg hne, hliteral]
  simp only [b64decode_b64encode, b64decode_append_apostrophe, Carrier.fresh, Carrier.readBack]

/-- The literal of no bytes holds no pair. -/
theorem setVal_literal_nil (env : Env) :
    Correlation.setVal env [] (Bytes.str (Bytes.ofText (Correlation.getVal []))) = ([], .ok ()) := by
  have hstr : Bytes.str (Bytes.ofText (Correlation.getVal [])) = "b''" := by decide
  have hsplit : Text.split ',' "b''" = ["b''"] := by decide
  have hparts : Text.split ':' "b''" = ["b''"] := by decide
  rw [hstr, Correlation.setVal, if_neg (by decide), hsplit, Correlation.setEntries]
  split
  · rfl
  · rw [hparts]
    rfl

/-- No entry is read under the key `key`. -/
def Misses (key : String) (entries : List String) : Prop :=
  ∀ per ∈ entries, ∀ left right, Text.split ':' per = [left, right] → b64decode left ≠ .ok key

theorem setEntries_misses (env : Env) {key : String} : ∀ {entries : List String}
    {dict : Correlation}, Misses key entries → key ∉ dict.map Prod.fst →
      key ∉ (Correlation.setEntries env dict entries).1.map Prod.fst := by
  intro entries
  induction entries with
  | nil => exact fun _ hdict => hdict
  | cons per rest ih =>
      intro dict hmiss hdict
      have hrest : Misses key rest := fun per' hper' => hmiss per' (List.mem_cons_of_mem _ hper')
      rw [Correlation.setEntries]
      split
      · exact hdict
      · split
        · next left right hsplit =>
            split
            · exact hdict
            · next value _ =>
                split
                · exact hdict
                · next other hother =>
                    refine ih hrest ?_
                    have hne : key ≠ other := by
                      rintro rfl
                      exact hmiss per List.mem_cons_self left right hsplit hother
                    intro hkey
                    obtain ⟨entry, hentry, hfst⟩ := List.mem_map.mp hkey
                    obtain rfl | hentry := Correlation.mem_insert hentry
                    · exact hne hfst.symm
                    · exact hdict (hfst ▸ List.mem_map_of_mem hentry)
        · exact ih hrest hdict

theorem split_item_within {opening closing : String} (hopening : ':' ∉ opening.toList)
    (hclosing : ':' ∉ closing.toList) (entry : String × String) :
    Text.split ':' (opening ++ (Correlation.item entry ++ closing)) =
      [opening ++ b64encode entry.1, b64encode entry.2 ++ closing] := by
  have hjoin : opening ++ (Correlation.item entry ++ closing) =
      Text.join ':' [opening ++ b64encode entry.1, b64encode entry.2 ++ closing] := by
    rw [← String.toList_inj]
    simp [Correlation.item, Text.join, List.intercalate_cons_cons]
  rw [hjoin]
  refine Text.split_join (by simp) ?_
  simp only [List.mem_cons, List.not_mem_nil, or_false, forall_eq_or_imp, forall_eq,
    String.toList_append, List.mem_append, not_or]
  exact ⟨⟨hopening, not_mem_b64encode not_isCode_colon _⟩,
    not_mem_b64encode not_isCode_colon _, hclosing⟩

/-- The first key of a map cannot be read from the literal of the item: its own entry is out of step,
and no other entry has this key. -/
theorem misses_literal {entry : String × String} {rest : Correlation}
    (hkeys : ((entry :: rest).map Prod.fst).Nodup) :
    Misses entry.1 (literalParts ((entry :: rest).map Correlation.item)) := by
  have hfirst : ∀ closing : String, ':' ∉ closing.toList → ∀ left right,
      Text.split ':' ("b'" ++ (Correlation.item entry ++ closing)) = [left, right] →
        b64decode left ≠ .ok entry.1 := by
    intro closing hclosing left right hsplit
    rw [split_item_within (by decide) hclosing] at hsplit
    obtain rfl := (List.cons.inj hsplit).1
    exact b64decode_opening_ne entry.1
  have hother : ∀ other ∈ rest, ∀ closing : String, ':' ∉ closing.toList → ∀ left right,
      Text.split ':' (Correlation.item other ++ closing) = [left, right] →
        b64decode left ≠ .ok entry.1 := by
    intro other hmem closing hclosing left right hsplit hread
    have hwithin := @split_item_within "" closing (by decide) hclosing other
    rw [String.empty_append, hsplit] at hwithin
    obtain rfl := (List.cons.inj hwithin).1
    rw [String.empty_append, b64decode_b64encode, Except.ok.injEq] at hread
    rw [List.map_cons, List.nodup_cons] at hkeys
    exact hkeys.1 (hread ▸ List.mem_map_of_mem hmem)
  intro per hper left right hsplit
  cases rest with
  | nil =>
      obtain rfl := List.mem_singleton.mp hper
      exact hfirst "'" (by decide) left right hsplit
  | cons next rest =>
      obtain rfl | hper := List.mem_cons.mp hper
      · refine hfirst "" (by decide) left right ?_
        rw [String.append_empty]
        exact hsplit
      · obtain ⟨written, hwritten, hcases⟩ := mem_closeLast hper
        obtain ⟨other, hmem, rfl⟩ := (List.mem_map (l := next :: rest)).mp hwritten
        obtain rfl | rfl := hcases
        · refine hother other hmem "" (by decide) left right ?_
          rw [String.append_empty]
          exact hsplit
        · exact hother other hmem "'" (by decide) left right hsplit

/-- A map that is not empty does not arrive. -/
theorem setVal_literal_ne (env : Env) {dict : Correlation} (hkeys : (dict.map Prod.fst).Nodup)
    (hne : dict ≠ []) :
    (Correlation.setVal env [] (Bytes.str (Bytes.ofText dict.getVal))).1 ≠ dict := by
  cases dict with
  | nil => exact absurd rfl hne
  | cons entry rest =>
      have hplain : ∀ part ∈ (entry :: rest).map Correlation.item, ∀ c ∈ part.toList,
          Bytes.IsPlain c := by
        intro part hpart c hc
        obtain ⟨other, -, rfl⟩ := List.mem_map.mp hpart
        obtain rfl | ⟨text, htext, hc⟩ := Text.mem_join hc
        · decide
        · simp only [List.mem_cons, List.not_mem_nil, or_false] at htext
          obtain rfl | rfl := htext
          · exact isPlain_b64encode c hc
          · exact isPlain_b64encode c hc
      have hcomma : ∀ part ∈ (entry :: rest).map Correlation.item, ',' ∉ part.toList := by
        intro part hpart
        obtain ⟨other, -, rfl⟩ := List.mem_map.mp hpart
        exact Correlation.not_mem_comma_item other
      obtain ⟨hempty, hsplit⟩ := split_str_join (by simp) (by decide) hplain hcomma
      have hval : Correlation.getVal (entry :: rest) =
          Text.join ',' ((entry :: rest).map Correlation.item) := rfl
      intro hdict
      rw [hval, Correlation.setVal, if_neg hempty, hsplit] at hdict
      have hmiss : entry.1 ∉ (Correlation.setEntries env [] _).1.map Prod.fst :=
        setEntries_misses env (misses_literal hkeys) List.not_mem_nil
      rw [hdict] at hmiss
      exact hmiss List.mem_cons_self

namespace Kafka

section Headers

variable (env : Env) {item : CarrierItem} {before after : List Header}

theorem setFromHeaders_of_ne (hafter : ∀ header ∈ after, item.key ≠ header.1)
    (object : CarrierObject) : setFromHeaders env item after object = (object, .ok ()) := by
  induction after with
  | nil => rfl
  | cons header after ih =>
      rw [setFromHeaders, if_neg (hafter header List.mem_cons_self)]
      exact ih fun header' hmem => hafter header' (List.mem_cons_of_mem _ hmem)

/-- A key that occurs once is assigned once, with the text that its bytes are turned into. -/
theorem setFromHeaders_once (hbefore : ∀ header ∈ before, item.key ≠ header.1)
    (hafter : ∀ header ∈ after, item.key ≠ header.1) (value : List UInt8)
    (object : CarrierObject) :
    setFromHeaders env item (before ++ (item.key, value) :: after) object =
      object.setItem env (Bytes.str value) item := by
  induction before with
  | nil =>
      rw [List.nil_append, setFromHeaders, if_pos (Eq.refl item.key)]
      generalize object.setItem env (Bytes.str value) item = result
      obtain ⟨object', error | ⟨⟩⟩ := result
      · rfl
      · exact setFromHeaders_of_ne env hafter object'
  | cons header before ih =>
      rw [List.cons_append, setFromHeaders, if_neg (hbefore header List.mem_cons_self)]
      exact ih fun header' hmem => hbefore header' (List.mem_cons_of_mem _ hmem)

end Headers

/-- The two headers of the agent behind those of the user. -/
def sent (headers : List Header) (correlation sw8 : String) : List Header :=
  headers ++ [("sw8-correlation", Bytes.ofText correlation), ("sw8", Bytes.ofText sw8)]

theorem readCarrier_sent (env : Env) {headers : List Header}
    (hother : ∀ header ∈ headers, header.1 ≠ "sw8" ∧ header.1 ≠ "sw8-correlation")
    (correlation sw8 : String) (address : Nat) :
    readCarrier env (sent headers correlation sw8) address =
      (CarrierObject.new address).setItems env
        [(.correlationCarrier, Bytes.str (Bytes.ofText correlation)),
          (.sw8, Bytes.str (Bytes.ofText sw8))] := by
  have hcorrelation : ∀ object, setFromHeaders env .correlationCarrier
      (sent headers correlation sw8) object =
        object.setItem env (Bytes.str (Bytes.ofText correlation)) .correlationCarrier := by
    refine @setFromHeaders_once env .correlationCarrier headers [("sw8", Bytes.ofText sw8)]
      (fun header hmem => (hother header hmem).2.symm) (fun header hmem => ?_) _
    rw [List.mem_singleton.mp hmem]
    simp [CarrierItem.key]
  have hsw8 : ∀ object, setFromHeaders env .sw8 (sent headers correlation sw8) object =
      object.setItem env (Bytes.str (Bytes.ofText sw8)) .sw8 := by
    intro object
    have hsent : sent headers correlation sw8 =
        (headers ++ [("sw8-correlation", Bytes.ofText correlation)]) ++
          [(CarrierItem.sw8.key, Bytes.ofText sw8)] := by
      rw [List.append_assoc]
      rfl
    rw [hsent]
    refine setFromHeaders_once env (fun header hmem => ?_) (by simp) _ _
    obtain hmem | hmem := List.mem_append.mp hmem
    · exact (hother header hmem).1.symm
    · rw [List.mem_singleton.mp hmem]
      simp [CarrierItem.key]
  rw [readCarrier, CarrierItem.items, setAll, hcorrelation, CarrierObject.setItems]
  generalize CarrierObject.setItem env _ _ .correlationCarrier = result
  obtain ⟨object, error | ⟨⟩⟩ := result
  · rfl
  · change setAll env _ [.sw8] object = CarrierObject.setItems env object [(.sw8, _)]
    rw [setAll, hsw8, CarrierObject.setItems]
    generalize CarrierObject.setItem env _ _ .sw8 = result
    obtain ⟨object', error | ⟨⟩⟩ := result
    · rfl
    · rfl

section Read

variable {env env' : Env} {w : World} {span : Nat} {headers : List Header}
  (hother : ∀ header ∈ headers, header.1 ≠ "sw8" ∧ header.1 ≠ "sw8-correlation") {sw8 : String}

include hother

theorem readCarrier_of_nil (hsid : 0 ≤ (w.span span).sid)
    (hval : (Span.carrierOf env span w).getVal = .ok sw8) (address : Nat) :
    readCarrier env' (sent headers (Correlation.getVal []) sw8) address =
      (⟨(Span.carrierOf env span w).readBack (Bytes.str (Bytes.ofText sw8)) address, []⟩,
        .ok ()) := by
  have hpeer : ∃ peer, (Span.carrierOf env span w).clientAddress = some peer := by
    cases hclient : (Span.carrierOf env span w).clientAddress with
    | none =>
        have hnone : (w.span span).peer = none := hclient
        simp [Carrier.getVal, Span.carrierOf, hnone] at hval
    | some peer => exact ⟨peer, rfl⟩
  obtain ⟨peer, hpeer⟩ := hpeer
  have hdigits : ∀ c ∈ (toString (w.span span).sid).toList, c.isDigit := by
    rw [Text.toString_of_nonneg hsid]
    exact Text.isDigit_of_mem_repr
  have hset := setVal_literal rfl hdigits rfl hpeer hval address
  rw [readCarrier_sent env' hother]
  simp only [CarrierObject.setItems, CarrierObject.setItem, CarrierObject.new,
    setVal_literal_nil env', hset]

theorem dict_of_readCarrier {dict : Correlation} (hkeys : (dict.map Prod.fst).Nodup)
    (hne : dict ≠ []) {object : CarrierObject} {address : Nat}
    (hread : readCarrier env' (sent headers dict.getVal sw8) address = (object, .ok ())) :
    object.dict ≠ dict := by
  have hdict := setVal_literal_ne env' hkeys hne
  rw [readCarrier_sent env' hother, CarrierObject.setItems, CarrierObject.setItem] at hread
  dsimp only [CarrierObject.new] at hread
  generalize Correlation.setVal env' [] _ = result at hdict hread
  obtain ⟨read, error | ⟨⟩⟩ := result
  · cases hread
  · dsimp only [CarrierObject.setItems, CarrierObject.setItem] at hread
    generalize Carrier.setVal _ _ = result at hread
    obtain ⟨carrier, error | ⟨⟩⟩ := result
    · cases hread
    · obtain rfl := congrArg Prod.fst hread
      exact hdict

end Read

section Refer

variable {env : Env} {carrier : Carrier} {w : World} {span : Nat}

/-- Whatever a span refers to already, it refers to a valid carrier that it has taken. -/
theorem ref_mem_extractReal (htrace : carrier.traceId ≠ "") (hvalid : carrier.isValid = .ok true)
    {spanId : Int} (hnumber : carrier.spanId.toInt = .ok spanId) :
    (Span.extractReal env span carrier w).2 = .ok () ∧
      carrier.toRef "CrossProcess" spanId ∈
        ((Span.extractReal env span carrier w).1.span span).refs := by
  unfold Span.extractReal
  rw [idOf_of_ne htrace]
  dsimp only
  rw [hvalid, SegmentRef.ofCarrier_eq hnumber]
  dsimp only
  split
  · next hmem => exact ⟨rfl, hmem⟩
  · refine ⟨rfl, ?_⟩
    rw [World.span, World.modifySpan, Store.get_modify_self]
    exact List.mem_append_right _ (List.mem_singleton.mpr rfl)

/-- A span without references gets one only from a valid carrier. -/
theorem isValid_of_ref_mem (htrace : carrier.traceId ≠ "") (hrefs : (w.span span).refs = [])
    {ref : SegmentRef} (hmem : ref ∈ ((Span.extractReal env span carrier w).1.span span).refs) :
    carrier.isValid = .ok true := by
  have htaken : ((taken span carrier w).span span).refs = [] := hrefs
  cases hvalid : carrier.isValid with
  | error error =>
      rw [extractReal_of_error htrace hvalid, htaken] at hmem
      cases hmem
  | ok valid =>
      cases valid with
      | false =>
          rw [extractReal_of_invalid htrace hvalid, htaken] at hmem
          cases hmem
      | true => rfl

end Refer

/-- `extractRecord` once the carrier was read. -/
theorem extractRecord_eq {env : Env} {headers : List Header} {carrier : Carrier} {dict : Correlation}
    {w : World} (hread : readCarrier env headers w.dicts.size = (⟨carrier, dict⟩, .ok ()))
    {span : Nat} (hreal : (w.span span).cls ≠ .NoopSpan) :
    extractRecord env span headers w =
      Span.extractReal env span carrier (received dict carrier w) := by
  unfold extractRecord
  rw [hread]
  exact if_neg hreal

section Delivers

variable {env env' : Env} {w : World} {span : Nat} {headers : List Header}
  (hok : WorldOk env w) (hspan : span < w.spans.size)
  (hnoop : (w.context (w.span span).context).noop = false) (hsid : 0 ≤ (w.span span).sid)
  (hother : ∀ header ∈ headers, header.1 ≠ "sw8" ∧ header.1 ≠ "sw8-correlation") {sw8 : String}
  (hval : (Span.carrierOf env span w).getVal = .ok sw8)

include hok hspan hnoop hsid hother hval

theorem delivers_of_nil (hdict : (injected env span w).dict = [])
    (hvalid : (Span.carrierOf env span w).isValid = .ok true) :
    Delivers env env' span (sent headers (injected env span w).dict.getVal sw8) w := by
  obtain ⟨traceId, -, htrace, hne⟩ := hok.traceId_ne hspan hnoop
  rw [hdict]
  constructor
  · intro correlation
    refine ⟨_, readCarrier_of_nil hother hsid hval correlation, ?_, hdict.symm⟩
    exact ⟨rfl, rfl, rfl, rfl, rfl, rfl, rfl⟩
  · intro consumer s hreal
    rw [extractRecord_eq (readCarrier_of_nil hother hsid hval _) hreal]
    have htrace' : ((Span.carrierOf env span w).readBack (Bytes.str (Bytes.ofText sw8))
        consumer.dicts.size).traceId ≠ "" := htrace ▸ hne
    exact ref_mem_extractReal htrace' hvalid (carrierOf_toInt env hsid)

theorem delivers_iff :
    Delivers env env' span (sent headers (injected env span w).dict.getVal sw8) w ↔
      (injected env span w).dict = [] ∧ (Span.carrierOf env span w).isValid = .ok true := by
  constructor
  · intro h
    have hdict : (injected env span w).dict = [] := by
      by_contra hne
      obtain ⟨object, hread, -, hsame⟩ := h.fields 0
      exact dict_of_readCarrier hother (hok.keys _) hne hread hsame
    refine ⟨hdict, ?_⟩
    -- a consumer whose span has no reference yet
    obtain ⟨traceId, -, htrace, hne⟩ := hok.traceId_ne hspan hnoop
    have hcls : ((rooted .EntrySpan 0 "" .init).span 0).cls ≠ .NoopSpan := by decide
    obtain ⟨-, hmem⟩ := h.referred (rooted .EntrySpan 0 "" .init) 0 hcls
    rw [hdict, extractRecord_eq (readCarrier_of_nil hother hsid hval _) hcls] at hmem
    have htrace' : ((Span.carrierOf env span w).readBack (Bytes.str (Bytes.ofText sw8))
        (rooted .EntrySpan 0 "" .init).dicts.size).traceId ≠ "" := htrace ▸ hne
    have hvalid := isValid_of_ref_mem htrace' rfl hmem
    exact hvalid
  · rintro ⟨hdict, hvalid⟩
    exact delivers_of_nil hok hspan hnoop hsid hother hval hdict hvalid

end Delivers

section Producer

variable {env : Env} {task : Nat} {answers : Answers} {sampled : Bool} {topics : KafkaTopics}
  {servers : List String} {topic : String} {headers : Option (List Header)} {w w' : World}

theorem appendItems_eq_ok {object : CarrierObject} {before after : List Header}
    (h : appendItems object CarrierItem.items before = .ok after) :
    ∃ sw8, object.carrier.getVal = .ok sw8 ∧ after = sent before object.dict.getVal sw8 := by
  rw [CarrierItem.items, appendItems, CarrierObject.getItem] at h
  dsimp only at h
  rw [appendItems, CarrierObject.getItem] at h
  cases hval : object.carrier.getVal with
  | error error =>
      rw [hval] at h
      cases h
  | ok sw8 =>
      rw [hval] at h
      obtain rfl := Except.ok.inj h
      refine ⟨sw8, rfl, ?_⟩
      rw [List.append_assoc]
      rfl

/-- What `_sw_send` does once its span was entered. -/
theorem swSend_cases (hreach : Reachable env w) {span : Nat} {delivered : List Header}
    (h : swSend env task answers sampled topics servers topic headers w =
      (w', .ok (some span, some delivered))) :
    ∃ inside outside carrier, Reachable env inside ∧ span < inside.spans.size ∧
      Span.inject env span inside = (outside, .ok carrier) ∧
      w' = outside.modifySpan span (fun span => { span with layer := .MQ }) ∧
      appendItems ⟨w'.carriers.get carrier, w'.dicts.get (w'.carriers.get carrier).correlation⟩
        CarrierItem.items (headers.getD []) = .ok delivered := by
  have hcontext : Reachable env (getContext env task sampled w).1 :=
    hreach.step (.getContext task sampled) trivial
  have hlt := getContext_lt hreach.worldOk task sampled
  unfold swSend at h
  split at h
  · cases h
  · dsimp only at h
    generalize getContext env task sampled w = result at hcontext hlt h
    obtain ⟨w₁, context⟩ := result
    dsimp only at hcontext hlt h
    have hcreated := hcontext.step (.newSpan task context answers (.newExitSpan
      ("Kafka/" ++ topic ++ "/Producer") (some (Text.join ';' servers)) (some .KafkaProducer) none))
      ⟨hlt, by simp [Call.carrier]⟩
    have heffect := Call.run_effect env task context answers w₁ (.newExitSpan
      ("Kafka/" ++ topic ++ "/Producer") (some (Text.join ';' servers)) (some .KafkaProducer) none)
    dsimp only [ApiAction.run, Call.run] at hcreated heffect
    generalize SpanContext.newExitSpan env task context answers _ _ _ none w₁ = result
      at hcreated heffect h
    obtain ⟨w₂, error | created⟩ := result
    · cases h
    · dsimp only at hcreated heffect h
      have hcreatedLt := heffect.span_lt hcontext.worldOk rfl
      have hentered := hcreated.step (.start task created) hcreatedLt
      have henteredLt := hcreatedLt.trans_le
        (keeps_start task hcreatedLt hcreated.worldOk).2.spans_le
      cases hinject : Span.inject env created (Span.start task created w₂) with
      | mk outside outcome =>
          rw [hinject] at h
          cases outcome with
          | error error => cases h
          | ok carrier =>
              dsimp only at h
              split at h
              · cases h
              · next appended happended =>
                  obtain ⟨rfl, hresult⟩ := Prod.mk.inj h
                  obtain ⟨hspan, hheaders⟩ := Prod.mk.inj (Except.ok.inj hresult)
                  obtain rfl := Option.some.inj hspan
                  obtain rfl := Option.some.inj hheaders
                  exact ⟨_, outside, carrier, hentered, henteredLt, hinject, rfl, happended⟩

theorem span_layer (span : Nat) (w : World) :
    (w.modifySpan span fun span => { span with layer := .MQ }).span span =
      { w.span span with layer := .MQ } :=
  Store.get_modify_self w.spans span fun span => { span with layer := .MQ }

theorem carrierOf_layer (env : Env) (span : Nat) (w : World) :
    Span.carrierOf env span (w.modifySpan span fun span => { span with layer := .MQ }) =
      Span.carrierOf env span w := by
  unfold Span.carrierOf
  rw [span_layer]
  rfl

theorem inject_span (env : Env) (span : Nat) (w : World) (s : Nat) :
    (Span.inject env span w).1.span s = w.span s := by
  unfold Span.inject
  split
  · rfl
  · rfl
  · rfl

/-- The wrapper appends the items of the carrier that names its exit span. -/
theorem swSend_spec (hreach : Reachable env w) {span : Nat} {delivered : List Header}
    (h : swSend env task answers sampled topics servers topic headers w =
      (w', .ok (some span, some delivered)))
    (hreal : (w'.span span).cls = .ExitSpan) :
    Reachable env w' ∧ span < w'.spans.size ∧
      ∃ sw8, (Span.carrierOf env span w').getVal = .ok sw8 ∧
        delivered = sent (headers.getD []) (injected env span w').dict.getVal sw8 := by
  obtain ⟨inside, outside, carrier, hinside, hlt, hinject, rfl, happended⟩ := swSend_cases hreach h
  have hcls : (inside.span span).cls = .ExitSpan := by
    rw [span_layer] at hreal
    rw [← inject_span env span inside span, hinject]
    exact hreal
  have hexit : Span.inject env span inside = ({ inside with
      carriers := inside.carriers.alloc (Span.carrierOf env span inside) }, .ok
        inside.carriers.size) := by
    rw [Span.inject, hcls]
  obtain ⟨houtside, hcarrier⟩ := Prod.mk.inj (hinject.symm.trans hexit)
  obtain rfl := Except.ok.inj hcarrier
  have hstep := (hinside.step (.inject span) hlt)
  rw [ApiAction.run, hinject] at hstep
  have hlt' : span < outside.spans.size := by
    rw [houtside]
    exact hlt
  refine ⟨hstep.step (.edit span (.layer .MQ)) hlt', hlt', ?_⟩
  obtain ⟨sw8, hval, hdelivered⟩ := appendItems_eq_ok happended
  have hget : (outside.modifySpan span fun span => { span with layer := .MQ }).carriers.get
      inside.carriers.size = Span.carrierOf env span outside := by
    rw [houtside]
    exact Store.get_alloc_size _ _
  rw [hget] at hval hdelivered
  refine ⟨sw8, ?_, ?_⟩
  · rw [carrierOf_layer]
    exact hval
  · rw [injected, carrierOf_layer]
    exact hdelivered

end Producer

/-- **Record headers.** A consumer reads what the exit span of the producer injected, and its span refers
to that span, exactly if the correlation map is empty and the carrier is a valid one. -/
theorem delivers_swSend_iff {env : Env} (env' : Env) {task : Nat} {answers : Answers}
    {sampled : Bool} {topics : KafkaTopics} {servers : List String} {topic : String}
    {headers : Option (List Header)} {w w' : World} (hreach : Reachable env w) {span : Nat}
    {delivered : List Header}
    (h : swSend env task answers sampled topics servers topic headers w =
      (w', .ok (some span, some delivered)))
    (hreal : (w'.span span).cls = .ExitSpan)
    (hother : ∀ header ∈ headers.getD [], header.1 ≠ "sw8" ∧ header.1 ≠ "sw8-correlation") :
    Delivers env env' span delivered w' ↔
      (injected env span w').dict = [] ∧ (injected env span w').carrier.isValid = .ok true := by
  obtain ⟨hreach', hlt, sw8, hval, rfl⟩ := swSend_spec hreach h hreal
  have hnoop : (w'.context (w'.span span).context).noop = false := by
    rw [← Bool.not_eq_true, ← cls_eq_noop_iff hreach' hlt, hreal]
    decide
  have hsid : 0 ≤ (w'.span span).sid :=
    hreach'.inv.sid_nonneg span hlt (by simp [Span.toLedger, hreal])
  exact delivers_iff hreach'.worldOk hlt hnoop hsid hother hval

/-- The default settings, under which the agent does not report over Kafka. -/
def sampleTopics : KafkaTopics :=
  { agentProtocol := "grpc"
    segment := "skywalking-segments"
    log := "skywalking-logs"
    management := "skywalking-managements"
    meter := "skywalking-meters" }

/-- A record that is sent with a header of the user. -/
def sampleSend (w : World) : World × Except PyError (Option Nat × Option (List Header)) :=
  swSend .sample 0 ⟨false, false⟩ true sampleTopics ["localhost:9092"] "orders"
    (some [("content-type", [106, 115, 111, 110])]) w

/-- A record was sent within the real exit span `span`. -/
def SendsIn (span : Nat) (result : World × Except PyError (Option Nat × Option (List Header))) :
    Prop :=
  (result.2.toOption.any fun sent => sent.1 = some span && sent.2.isSome) ∧
    (result.1.span span).cls = .ExitSpan

instance (span : Nat) (result : World × Except PyError (Option Nat × Option (List Header))) :
    Decidable (SendsIn span result) := inferInstanceAs (Decidable (_ ∧ _))

theorem SendsIn.exists_headers {span : Nat}
    {result : World × Except PyError (Option Nat × Option (List Header))}
    (h : SendsIn span result) : ∃ delivered, result = (result.1, .ok (some span, some delivered)) := by
  obtain ⟨w', error | ⟨opened, delivered⟩⟩ := result
  · cases h.1
  · have hsent := h.1
    simp only [Except.toOption, Option.any_some, Bool.and_eq_true, decide_eq_true_eq] at hsent
    obtain ⟨delivered, rfl⟩ := Option.isSome_iff_exists.mp hsent.2
    obtain rfl := hsent.1
    exact ⟨delivered, rfl⟩

theorem other_sampleHeaders : ∀ header ∈ (some [("content-type", [106, 115, 111, 110])] :
    Option (List Header)).getD [], header.1 ≠ "sw8" ∧ header.1 ≠ "sw8-correlation" := by
  intro header hmem
  obtain rfl := List.mem_singleton.mp hmem
  exact ⟨by decide, by decide⟩

theorem delivers_without_correlation :
    ∃ delivered, sampleSend .init = ((sampleSend .init).1, .ok (some 0, some delivered)) ∧
      Delivers .sample .sample 0 delivered (sampleSend .init).1 := by
  have hsends : SendsIn 0 (sampleSend .init) := by decide +kernel
  obtain ⟨delivered, hsent⟩ := hsends.exists_headers
  refine ⟨delivered, hsent, ?_⟩
  exact (delivers_swSend_iff .sample ⟨[], .nil _⟩ hsent hsends.2 other_sampleHeaders).mpr
    ⟨by decide +kernel, by decide +kernel⟩

/-- A request handler that has put something into the correlation map. -/
def correlatedActions : List ApiAction :=
  [.getContext 0 true,
    .newSpan 0 0 ⟨false, false⟩ (.newEntrySpan "/orders" none none),
    .start 0 0,
    .putCorrelation 0 (some "user") (some "1")]

theorem correlation_not_delivered :
    ¬ ∀ (env env' : Env) (task : Nat) (answers : Answers) (sampled : Bool) (topics : KafkaTopics)
      (servers : List String) (topic : String) (headers : Option (List Header)) (w w' : World)
      (span : Nat) (delivered : List Header), Reachable env w →
      swSend env task answers sampled topics servers topic headers w =
        (w', .ok (some span, some delivered)) →
      (w'.span span).cls = .ExitSpan →
      (∀ header ∈ headers.getD [], header.1 ≠ "sw8" ∧ header.1 ≠ "sw8-correlation") →
      Delivers env env' span delivered w' := by
  intro hall
  have hresult : ∃ w, Reachable .sample w ∧ SendsIn 1 (sampleSend w) ∧
      (injected .sample 1 (sampleSend w).1).dict = [("user", "1")] := by
    apply exists_reachable correlatedActions
    decide +kernel
  obtain ⟨w, hreach, hsends, hdict⟩ := hresult
  obtain ⟨delivered, hsent⟩ := hsends.exists_headers
  have hdelivers := hall .sample .sample 0 ⟨false, false⟩ true sampleTopics ["localhost:9092"]
    "orders" _ w _ 1 delivered hreach hsent hsends.2 other_sampleHeaders
  obtain ⟨-, -, sw8, -, rfl⟩ := swSend_spec hreach hsent hsends.2
  obtain ⟨object, hread, -, hsame⟩ := hdelivers.fields 0
  rw [hdict] at hread hsame
  exact dict_of_readCarrier other_sampleHeaders (by decide) (by decide) hread hsame

end Kafka

end SkyWalking
