import SkyWalking.Proof.CarrierLemmas
import SkyWalking.Trace.Propagation

/-!
# The two items of a carrier as a code

A carrier whose fields are texts is told by its two item values: assigned to a new carrier, in either
order, they give back what was encoded.
-/

namespace SkyWalking

variable {env : Env} {object object' : CarrierObject}

/-- The fields are texts, and the map is one that a receiver has room for. -/
structure CarrierObject.Encodable (env : Env) (object : CarrierObject) : Prop where
  spanId : ∃ text, object.carrier.spanId = .str text ∧ '-' ∉ text.toList
  endpoint : ∃ text, object.carrier.endpoint = some text
  clientAddress : ∃ text, object.carrier.clientAddress = some text
  keys : (object.dict.map Prod.fst).Nodup
  room : (object.dict.length : Int) ≤ env.correlationElementMaxNumber + 1

/-- The seven fields and the map. -/
def CarrierObject.Same (object object' : CarrierObject) : Prop :=
  object.carrier.SameFields object'.carrier ∧ object.dict = object'.dict

theorem Carrier.SameFields.symm {carrier carrier' : Carrier} (h : carrier.SameFields carrier') :
    carrier'.SameFields carrier := by
  obtain ⟨htrace, hsegment, hspan, hservice, hinstance, hendpoint, hclient⟩ := h
  exact ⟨htrace.symm, hsegment.symm, hspan.symm, hservice.symm, hinstance.symm, hendpoint.symm,
    hclient.symm⟩

theorem Carrier.SameFields.trans {first second third : Carrier} (h : first.SameFields second)
    (h' : second.SameFields third) : first.SameFields third := by
  obtain ⟨htrace, hsegment, hspan, hservice, hinstance, hendpoint, hclient⟩ := h
  obtain ⟨htrace', hsegment', hspan', hservice', hinstance', hendpoint', hclient'⟩ := h'
  exact ⟨htrace.trans htrace', hsegment.trans hsegment', hspan.trans hspan',
    hservice.trans hservice', hinstance.trans hinstance', hendpoint.trans hendpoint',
    hclient.trans hclient'⟩

theorem CarrierObject.Same.trans_symm {decoded : CarrierObject} (h : decoded.Same object)
    (h' : decoded.Same object') : object.Same object' := by
  constructor
  · exact h.1.symm.trans h'.1
  · exact h.2.symm.trans h'.2

/-- The items are independent, so the order of the assignments does not matter. -/
theorem CarrierObject.setItems_swap (env : Env) {object : CarrierObject} {dict : Correlation}
    {carrier : Carrier} {sw8 correlation : String}
    (hcarrier : object.carrier.setVal sw8 = (carrier, .ok ()))
    (hdict : Correlation.setVal env object.dict correlation = (dict, .ok ())) :
    object.setItems env [(.sw8, sw8), (.correlationCarrier, correlation)] =
        (⟨carrier, dict⟩, .ok ()) ∧
      object.setItems env [(.correlationCarrier, correlation), (.sw8, sw8)] =
        (⟨carrier, dict⟩, .ok ()) := by
  constructor
  · simp only [setItems, setItem, hcarrier, hdict]
  · simp only [setItems, setItem, hcarrier, hdict]

theorem CarrierObject.Encodable.decoded (h : object.Encodable env) {sw8 correlation : String}
    (hsw8 : object.getItem .sw8 = .ok sw8)
    (hcorrelation : object.getItem .correlationCarrier = .ok correlation) (address : Nat) :
    ∃ decoded, decoded.Same object ∧
      (CarrierObject.new address).setItems env
          [(.sw8, sw8), (.correlationCarrier, correlation)] = (decoded, .ok ()) ∧
      (CarrierObject.new address).setItems env
          [(.correlationCarrier, correlation), (.sw8, sw8)] = (decoded, .ok ()) := by
  obtain ⟨spanId, hspanId, hdash⟩ := h.spanId
  obtain ⟨endpoint, hendpoint⟩ := h.endpoint
  obtain ⟨client, hclient⟩ := h.clientAddress
  obtain ⟨val, hval, hset⟩ := object.carrier.setVal_getVal hspanId hdash hendpoint hclient
  have hdict := Correlation.setVal_getVal env h.keys h.room
  obtain rfl : val = sw8 := Except.ok.inj (hval.symm.trans hsw8)
  obtain rfl : object.dict.getVal = correlation := Except.ok.inj hcorrelation
  obtain ⟨hfirst, hsecond⟩ :=
    @CarrierObject.setItems_swap env (CarrierObject.new address) _ _ _ _ (hset address) hdict
  refine ⟨_, ?_, hfirst, hsecond⟩
  exact ⟨⟨rfl, rfl, rfl, rfl, rfl, rfl, rfl⟩, rfl⟩

theorem CarrierObject.Encodable.getItem (h : object.Encodable env) :
    ∃ sw8 correlation, object.getItem .sw8 = .ok sw8 ∧
      object.getItem .correlationCarrier = .ok correlation := by
  obtain ⟨spanId, hspanId, hdash⟩ := h.spanId
  obtain ⟨endpoint, hendpoint⟩ := h.endpoint
  obtain ⟨client, hclient⟩ := h.clientAddress
  obtain ⟨val, hval, -⟩ := object.carrier.setVal_getVal hspanId hdash hendpoint hclient
  exact ⟨val, _, hval, rfl⟩

/-- **Round trip.** Both item values exist, either order of assigning them to a new carrier gives back
the fields and the map, and no other carrier has the same two values. -/
theorem carrier_round_trip (env : Env) (object : CarrierObject) (h : object.Encodable env) :
    ∃ sw8 correlation, object.getItem .sw8 = .ok sw8 ∧
      object.getItem .correlationCarrier = .ok correlation ∧
      (∀ address, ∃ decoded, decoded.Same object ∧
        (CarrierObject.new address).setItems env
            [(.sw8, sw8), (.correlationCarrier, correlation)] = (decoded, .ok ()) ∧
        (CarrierObject.new address).setItems env
            [(.correlationCarrier, correlation), (.sw8, sw8)] = (decoded, .ok ())) ∧
      ∀ object' : CarrierObject, object'.Encodable env → object'.getItem .sw8 = .ok sw8 →
        object'.getItem .correlationCarrier = .ok correlation → object.Same object' := by
  obtain ⟨sw8, correlation, hsw8, hcorrelation⟩ := h.getItem
  refine ⟨sw8, correlation, hsw8, hcorrelation, h.decoded hsw8 hcorrelation, ?_⟩
  intro object' h' hsw8' hcorrelation'
  obtain ⟨decoded, hsame, hset, -⟩ := h.decoded hsw8 hcorrelation 0
  obtain ⟨decoded', hsame', hset', -⟩ := h'.decoded hsw8' hcorrelation' 0
  obtain rfl : decoded = decoded' := congrArg Prod.fst (hset.symm.trans hset')
  exact hsame.trans_symm hsame'

/-- A carrier with an empty client address, an empty key and a separator in each field. -/
def CarrierObject.sample : CarrierObject :=
  { carrier :=
      { val := none
        traceId := "a-b"
        segmentId := "c,d"
        spanId := .str ""
        service := "e:f"
        serviceInstance := "ü"
        endpoint := some "/五"
        clientAddress := some ""
        correlation := 7 }
    dict := [("", "x:y"), ("k-1", "")] }

theorem carrier_round_trip_sample :
    ∃ sw8 correlation, CarrierObject.sample.getItem .sw8 = .ok sw8 ∧
      CarrierObject.sample.getItem .correlationCarrier = .ok correlation ∧
      (∀ address, ∃ decoded, decoded.Same CarrierObject.sample ∧
        (CarrierObject.new address).setItems Env.sample
            [(.sw8, sw8), (.correlationCarrier, correlation)] = (decoded, .ok ()) ∧
        (CarrierObject.new address).setItems Env.sample
            [(.correlationCarrier, correlation), (.sw8, sw8)] = (decoded, .ok ())) ∧
      ∀ object' : CarrierObject, object'.Encodable Env.sample → object'.getItem .sw8 = .ok sw8 →
        object'.getItem .correlationCarrier = .ok correlation →
        CarrierObject.sample.Same object' := by
  apply carrier_round_trip
  exact ⟨⟨"", rfl, by decide⟩, ⟨_, rfl⟩, ⟨_, rfl⟩, by decide, by decide⟩

end SkyWalking
