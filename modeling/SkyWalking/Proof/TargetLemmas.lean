import SkyWalking.Channel.Target
import SkyWalking.Lib.Distinct
import SkyWalking.Proof.AddressLemmas

/-!
# What the target of the channel lists

Both loops collect the candidates of the entries, each once. Literal addresses have no commas, so the
target can be taken apart again.
-/

namespace SkyWalking

open Text

variable {limit : DigitLimit} {resolver : Resolver} {addresses : List BackendAddress}

theorem key_injective {first second : BackendAddress} (h : first.key = second.key) :
    first = second := by
  obtain ⟨host, port, kind⟩ := first
  obtain ⟨host', port', kind'⟩ := second
  simp only [BackendAddress.key, Prod.mk.injEq] at h
  obtain ⟨rfl, rfl, rfl⟩ := h
  rfl

namespace Collected

/-- The keys are those of the items. -/
def Consistent (collected : Collected) : Prop :=
  collected.seen = collected.items.map BackendAddress.key

theorem Consistent.empty : Collected.empty.Consistent := rfl

variable {collected : Collected}

theorem Consistent.key_mem_iff (h : collected.Consistent) (item : BackendAddress) :
    item.key ∈ collected.seen ↔ item ∈ collected.items := by
  rw [h, List.mem_map]
  constructor
  · rintro ⟨other, hother, hkey⟩
    exact key_injective hkey ▸ hother
  · exact fun hitem => ⟨item, hitem, rfl⟩

theorem Consistent.add (h : collected.Consistent) (item : BackendAddress) :
    (collected.add item).Consistent := by
  unfold Collected.add
  split
  · exact h
  · rw [Consistent, List.map_append, List.map_singleton]
    exact congrArg (· ++ [item.key]) h

theorem Consistent.items_add (h : collected.Consistent) (item : BackendAddress) :
    (collected.add item).items = collected.items ++ [item].removeAll collected.items := by
  have hmem := h.key_mem_iff item
  unfold Collected.add
  by_cases hitem : item ∈ collected.items
  · rw [if_pos (hmem.mpr hitem)]
    simp [List.removeAll, hitem]
  · rw [if_neg fun hkey => hitem (hmem.mp hkey)]
    simp [List.removeAll, hitem]

theorem Consistent.foldl_add (h : collected.Consistent) (items : List BackendAddress) :
    (items.foldl Collected.add collected).Consistent := by
  induction items generalizing collected with
  | nil => exact h
  | cons item rest ih => exact ih (h.add item)

/-- A loop over candidates appends the new ones. -/
theorem Consistent.items_foldl_add (h : collected.Consistent) (items : List BackendAddress) :
    (items.foldl Collected.add collected).items =
      collected.items ++ (items.removeAll collected.items).eraseDups := by
  induction items using List.reverseRecOn with
  | nil => simp [List.removeAll]
  | append_singleton items item ih =>
      have hlast := Distinct.eraseDups_removeAll_append collected.items items (some item)
      rw [Option.toList_some] at hlast
      rw [List.foldl_append, List.foldl_cons, List.foldl_nil, (h.foldl_add items).items_add, ih, hlast,
        List.append_assoc]

theorem items_foldl_empty (items : List BackendAddress) :
    (items.foldl Collected.add .empty).items = items.eraseDups := by
  rw [Consistent.empty.items_foldl_add]
  simp [Collected.empty, List.removeAll]

end Collected

theorem expandBackendAddresses_eq (resolver : Resolver) (addresses : List BackendAddress) :
    expandBackendAddresses resolver addresses = resolver.expanded addresses := by
  unfold expandBackendAddresses Resolver.expanded
  rw [← List.foldl_flatMap, Collected.items_foldl_empty]

theorem visit_toEncode (preparation : Preparation) (orig : BackendAddress) :
    (preparation.visit resolver orig).toEncode =
      (resolver.candidates orig).foldl Collected.add preparation.toEncode := by
  unfold Preparation.visit Resolver.candidates
  by_cases hkind : orig.kind = .HOSTNAME
  · rw [if_pos hkind, if_pos hkind]
    dsimp only
    split
    · next hempty => rw [hempty, List.foldl_nil]
    · rfl
  · rw [if_neg hkind, if_neg hkind]

theorem visit_authority (preparation : Preparation) (orig : BackendAddress) :
    (preparation.visit resolver orig).authority =
      if resolver.candidates orig = [] then preparation.authority
      else preparation.authority.or (some orig.endpoint) := by
  unfold Preparation.visit Resolver.candidates
  by_cases hkind : orig.kind = .HOSTNAME
  · rw [if_pos hkind, if_pos hkind]
    dsimp only
    split <;> rfl
  · rw [if_neg hkind, if_neg hkind, if_neg (List.cons_ne_nil _ _)]

/-- The first entry that has a candidate. -/
def Resolver.firstUsable (resolver : Resolver) (addresses : List BackendAddress) :
    Option BackendAddress :=
  addresses.find? fun address => resolver.candidates address ≠ []

theorem foldl_visit (preparation : Preparation) (addresses : List BackendAddress) :
    (addresses.foldl (Preparation.visit resolver) preparation).toEncode =
        addresses.foldl (fun collected address =>
          (resolver.candidates address).foldl Collected.add collected) preparation.toEncode ∧
      (addresses.foldl (Preparation.visit resolver) preparation).authority =
        preparation.authority.or ((resolver.firstUsable addresses).map BackendAddress.endpoint) := by
  induction addresses generalizing preparation with
  | nil => exact ⟨rfl, by simp [Resolver.firstUsable]⟩
  | cons orig rest ih =>
      obtain ⟨hencode, hauthority⟩ := ih (preparation.visit resolver orig)
      refine ⟨?_, ?_⟩
      · rw [List.foldl_cons, List.foldl_cons, hencode, visit_toEncode]
      · rw [List.foldl_cons, hauthority, visit_authority]
        by_cases hempty : resolver.candidates orig = []
        · rw [if_pos hempty]
          simp [Resolver.firstUsable, hempty]
        · rw [if_neg hempty]
          simp [Resolver.firstUsable, hempty]

/-- An address with a literal host. -/
def BackendAddress.IsLiteral (address : BackendAddress) : Prop :=
  classifyHost address.host.toList = some address.kind ∧ address.kind ≠ .HOSTNAME

/-- The characters of a literal host. -/
theorem BackendAddress.IsLiteral.isAddressChar {address : BackendAddress} (h : address.IsLiteral) :
    ∀ c ∈ address.host.toList, IpAddress.IsAddressChar c := by
  obtain ⟨hclassify, hkind⟩ := h
  obtain ⟨-, -, hzone⟩ := host_of_classifyHost hclassify
  obtain ⟨-, hipv4⟩ | ⟨-, -, hipv6⟩ | ⟨hhostname, -, -⟩ := classifyHost_cases hclassify
  · intro c hc
    obtain hdigit | hdot := IpAddress.chars_of_ipv4? hipv4 c hc
    · exact .inl (by simp [IpAddress.isHexDigit, hdigit])
    · exact .inr (.inr hdot)
  · exact (IpAddress.chars_of_ipv6? hipv6 hzone).2
  · exact absurd hhostname hkind

theorem comma_not_mem_targetEntry {address : BackendAddress} (h : address.IsLiteral)
    (items : List BackendAddress) : ',' ∉ (targetEntry items address).toList := by
  have hhost : ',' ∉ address.host.toList := by
    intro hmem
    obtain hhex | hcolon | hdot := h.isAddressChar ',' hmem
    · exact absurd hhex (by decide)
    · exact absurd hcolon (by decide)
    · exact absurd hdot (by decide)
  have hport : ',' ∉ (toString address.port).toList := by
    have hdigits : ∀ n : Nat, ',' ∉ n.repr.toList := fun n hmem =>
      absurd (isDigit_of_mem_repr ',' hmem) (by decide)
    rw [Int.toString_eq_repr, Int.repr_eq_if]
    split
    · exact hdigits _
    · rw [String.toList_append, List.mem_append, not_or]
      exact ⟨by decide, hdigits _⟩
  unfold targetEntry plainEntry mixedEntry ipv4MappedV6
  simp only [apply_ite String.toList, String.toList_append]
  generalize (toString address.port).toList = digits at hport ⊢
  split
  · simp [hhost, hport]
  · split <;> simp [hhost, hport]

/-- The static list of literal addresses. -/
theorem encodeSwStaticForCCore_eq {items : List BackendAddress} (hne : items ≠ [])
    (hliteral : ∀ item ∈ items, item.IsLiteral) : encodeSwStaticForCCore items =
      .ok (targetScheme items ++ join ',' (items.map (targetEntry items))) := by
  have hhostname : ¬ ∃ item ∈ items, item.kind = .HOSTNAME := fun ⟨item, hitem, hkind⟩ =>
    (hliteral item hitem).2 hkind
  unfold encodeSwStaticForCCore
  rw [if_neg hne, if_neg hhostname]
  by_cases hipv4 : ∀ item ∈ items, item.kind = .IPV4
  · have hentry : targetEntry items = plainEntry := by
      funext item
      exact if_pos hipv4
    rw [if_pos hipv4, targetScheme, if_pos hipv4, hentry]
  · have hentry : targetEntry items = mixedEntry := by
      funext item
      exact if_neg hipv4
    rw [if_neg hipv4, targetScheme, if_neg hipv4, hentry]
    split
    · next hipv6 =>
      -- without IPv4 addresses nothing is mapped
      have hsame : items.map bracketedEntry = items.map mixedEntry := by
        refine List.map_congr_left fun item hitem => ?_
        rw [mixedEntry, if_neg (by rw [hipv6 item hitem]; decide)]
        rfl
      rw [hsame]
    · rfl

theorem isLiteral_of_mem_candidates {address item : BackendAddress}
    (haddress : classifyHost address.host.toList = some address.kind)
    (hitem : item ∈ resolver.candidates address) : item.IsLiteral := by
  unfold Resolver.candidates at hitem
  split at hitem
  · exact ⟨resolver.classify _ _ item hitem, resolver.literal _ _ item hitem⟩
  · next hkind =>
    rw [List.mem_singleton.mp hitem]
    exact ⟨haddress, hkind⟩

theorem expanded_eq_nil_iff : resolver.expanded addresses = [] ↔
    ∀ address ∈ addresses, resolver.candidates address = [] := by
  unfold Resolver.expanded
  rw [← List.flatMap_eq_nil_iff, List.eq_nil_iff_forall_not_mem, List.eq_nil_iff_forall_not_mem]
  simp only [List.mem_eraseDups]

theorem firstUsable_eq_none_iff : resolver.firstUsable addresses = none ↔
    ∀ address ∈ addresses, resolver.candidates address = [] := by
  unfold Resolver.firstUsable
  simp

theorem isLiteral_of_mem_expanded
    (haddresses : ∀ address ∈ addresses, classifyHost address.host.toList = some address.kind) :
    ∀ item ∈ resolver.expanded addresses, item.IsLiteral := by
  intro item hitem
  obtain ⟨address, haddress, hcandidate⟩ := List.mem_flatMap.mp (List.mem_eraseDups.mp hitem)
  exact isLiteral_of_mem_candidates (haddresses address haddress) hcandidate

/-- With two or more entries the loop decides. -/
theorem prepareGrpcChannelEndpoints_of_long (hlong : 2 ≤ addresses.length) {preparation : Preparation}
    (hloop : addresses.foldl (Preparation.visit resolver) ⟨.empty, none⟩ = preparation) :
    (preparation.toEncode.items = [] → prepareGrpcChannelEndpoints resolver addresses =
      .error ⟨"No usable collector backend address after DNS expansion of " ++
        "SW_AGENT_COLLECTOR_BACKEND_SERVICES"⟩) ∧
    ∀ authority, preparation.toEncode.items ≠ [] → preparation.authority = some authority →
      prepareGrpcChannelEndpoints resolver addresses =
        (encodeSwStaticForCCore preparation.toEncode.items).map fun target => (target, authority) := by
  obtain ⟨first, second, rest, rfl⟩ : ∃ first second rest, addresses = first :: second :: rest := by
    cases addresses with
    | nil => simp at hlong
    | cons first tail =>
        cases tail with
        | nil => simp at hlong
        | cons second rest => exact ⟨first, second, rest, rfl⟩
  unfold prepareGrpcChannelEndpoints
  dsimp only
  rw [hloop]
  constructor
  · intro hempty
    rw [hempty]
  · intro authority hne hauthority
    obtain ⟨head, tail, hcons⟩ := List.exists_cons_of_ne_nil hne
    rw [hcons, hauthority]
    rfl

/-- The loop expands the list and finds the first usable entry. -/
theorem prepare_loop (resolver : Resolver) (addresses : List BackendAddress) :
    (addresses.foldl (Preparation.visit resolver) ⟨.empty, none⟩).toEncode.items =
        resolver.expanded addresses ∧
      (addresses.foldl (Preparation.visit resolver) ⟨.empty, none⟩).authority =
        (resolver.firstUsable addresses).map BackendAddress.endpoint := by
  obtain ⟨hencode, hauthority⟩ := @foldl_visit resolver ⟨.empty, none⟩ addresses
  refine ⟨?_, hauthority.trans (Option.none_or ..)⟩
  rw [hencode]
  exact expandBackendAddresses_eq resolver addresses

theorem prepare_error (hlong : 2 ≤ addresses.length) (hempty : resolver.expanded addresses = []) :
    prepareGrpcChannelEndpoints resolver addresses =
      .error ⟨"No usable collector backend address after DNS expansion of " ++
        "SW_AGENT_COLLECTOR_BACKEND_SERVICES"⟩ :=
  (prepareGrpcChannelEndpoints_of_long hlong rfl).1 ((prepare_loop resolver addresses).1.trans hempty)

theorem prepare_ok (hlong : 2 ≤ addresses.length)
    (haddresses : ∀ address ∈ addresses, classifyHost address.host.toList = some address.kind)
    {first : BackendAddress} (hfirst : resolver.firstUsable addresses = some first) :
    prepareGrpcChannelEndpoints resolver addresses =
      .ok (targetScheme (resolver.expanded addresses) ++ join ','
        ((resolver.expanded addresses).map (targetEntry (resolver.expanded addresses))),
        first.endpoint) := by
  obtain ⟨hitems, hauthority⟩ := prepare_loop resolver addresses
  have hne : resolver.expanded addresses ≠ [] := fun hnil => by
    rw [firstUsable_eq_none_iff.mpr (expanded_eq_nil_iff.mp hnil)] at hfirst
    cases hfirst
  rw [(prepareGrpcChannelEndpoints_of_long hlong rfl).2 first.endpoint (by rwa [hitems])
    (by rw [hauthority, hfirst]; rfl), hitems,
    encodeSwStaticForCCore_eq hne (isLiteral_of_mem_expanded haddresses)]
  rfl

/-- The prepared target lists the backends. -/
theorem listsBackends
    (haddresses : ∀ address ∈ addresses, classifyHost address.host.toList = some address.kind)
    {first : BackendAddress} (hfirst : resolver.firstUsable addresses = some first) :
    ListsBackends resolver addresses (targetScheme (resolver.expanded addresses) ++ join ','
      ((resolver.expanded addresses).map (targetEntry (resolver.expanded addresses))))
      first.endpoint where
  entries := by
    have hne : resolver.expanded addresses ≠ [] := fun hnil => by
      rw [firstUsable_eq_none_iff.mpr (expanded_eq_nil_iff.mp hnil)] at hfirst
      cases hfirst
    refine ⟨_, rfl, split_join (by simpa using hne) fun entry hentry => ?_⟩
    obtain ⟨item, hitem, rfl⟩ := List.mem_map.mp hentry
    exact comma_not_mem_targetEntry (isLiteral_of_mem_expanded haddresses item hitem) _
  authority := ⟨first, hfirst, rfl⟩

def kindOf : IpAddress.Address → AddressKind
  | .v4 _ => .IPV4
  | .v6 _ => .IPV6

/-- An address without a zone is not refused for its characters. -/
theorem classifyHost_eq {host : List Char} {address : IpAddress.Address}
    (haddress : IpAddress.ipAddress? host = some address) (hne : host ≠ [])
    (hchars : ∀ c ∈ host, IpAddress.IsAddressChar c) : classifyHost host = some (kindOf address) := by
  have hnot : ∀ c, IpAddress.IsAddressChar c → c ≠ '/' ∧ c ≠ '%' ∧ ¬ c.toNat < 32 := by
    intro c hc
    have hrange := hc.toNat
    refine ⟨?_, ?_, by omega⟩
    · rintro rfl
      exact absurd hrange (by decide)
    · rintro rfl
      exact absurd hrange (by decide)
  have hgood : ¬ (host = [] ∨ (host.any fun c => isspaceChar c || c.toNat < 32) = true ∨
      '/' ∈ host) := by
    rintro (hempty | hany | hslash)
    · exact hne hempty
    · obtain ⟨c, hc, hbad⟩ := List.any_eq_true.mp hany
      rw [Bool.or_eq_true, decide_eq_true_eq] at hbad
      exact hbad.elim (hchars c hc).not_isspaceChar (hnot c (hchars c hc)).2.2
    · exact (hnot '/' (hchars '/' hslash)).1 rfl
  have hzone : '%' ∉ host := fun hmem => (hnot '%' (hchars '%' hmem)).2.1 rfl
  unfold classifyHost
  rw [if_neg hgood, if_neg hzone, haddress]
  cases address <;> rfl

theorem classifyHost_of_ipv4? {host : List Char} (h : (IpAddress.ipv4? host).isSome) :
    classifyHost host = some .IPV4 := by
  obtain ⟨octets, hoctets⟩ := Option.isSome_iff_exists.mp h
  have haddress : IpAddress.ipAddress? host = some (.v4 octets) := by
    rw [IpAddress.ipAddress?, hoctets]
  refine classifyHost_eq haddress ?_ fun c hc => ?_
  · rintro rfl
    exact absurd h (by decide)
  · obtain hdigit | hdot := IpAddress.chars_of_ipv4? h c hc
    · exact .inl (by simp [IpAddress.isHexDigit, hdigit])
    · exact .inr (.inr hdot)

theorem classifyHost_of_ipv6? {host : List Char} (h : (IpAddress.ipv6? host).isSome)
    (hzone : '%' ∉ host) : classifyHost host = some .IPV6 := by
  obtain ⟨hextets, hhextets⟩ := Option.isSome_iff_exists.mp h
  obtain ⟨hcolon, hchars⟩ := IpAddress.chars_of_ipv6? h hzone
  have haddress : IpAddress.ipAddress? host = some (.v6 hextets) := by
    rw [IpAddress.ipAddress?, ipv4?_eq_none_of_ipv6? h hzone, hhextets]
    rfl
  exact classifyHost_eq haddress (List.ne_nil_of_mem hcolon) hchars

theorem resolvedAddress_eq_some {answer : AddressInfo} {info : AddressFamily × String}
    (hinfo : info ∈ answer.infos) {port : Int} {address : BackendAddress}
    (h : resolvedAddress port info = some address) : address.IsLiteral ∧ address.port = port := by
  obtain ⟨family, ip⟩ := info
  cases family with
  | AF_INET =>
      obtain rfl := Option.some.inj h
      exact ⟨⟨classifyHost_of_ipv4? (answer.inet _ hinfo rfl), by simp⟩, rfl⟩
  | AF_INET6 =>
      have hipv6 := answer.inet6 _ hinfo rfl
      have hzone : '%' ∉ ip.toList.takeWhile (· ≠ '%') := by
        intro hmem
        simpa using List.mem_takeWhile_imp hmem
      have hclassify := classifyHost_of_ipv6? hipv6 hzone
      dsimp only [resolvedAddress] at h
      split at h
      · cases h
      · cases h
      · split at h
        · cases h
        · obtain rfl := Option.some.inj h
          refine ⟨⟨?_, by simp⟩, rfl⟩
          rw [String.toList_ofList]
          exact hclassify
  | other => cases h

theorem mem_lookupHostname {infos : Option AddressInfo} {port : Int} {address : BackendAddress}
    (h : address ∈ lookupHostname infos port) : address.IsLiteral ∧ address.port = port := by
  cases infos with
  | none => cases h
  | some answer =>
      rw [lookupHostname, Collected.items_foldl_empty, List.mem_eraseDups] at h
      obtain ⟨info, hinfo, hresolved⟩ := List.mem_filterMap.mp h
      exact resolvedAddress_eq_some hinfo hresolved

/-- `_lookup_hostname` is a resolver, whatever `getaddrinfo` answers. -/
def Resolver.ofGetaddrinfo (getaddrinfo : String → Int → Option AddressInfo) : Resolver :=
  { lookup := fun host port => lookupHostname (getaddrinfo host port) port
    classify := fun _ _ _ h => (mem_lookupHostname h).1.1
    literal := fun _ _ _ h => (mem_lookupHostname h).1.2
    port_eq := fun _ _ _ h => (mem_lookupHostname h).2
    nodup := by
      intro host port
      cases getaddrinfo host port with
      | none => exact List.nodup_nil
      | some answer =>
          rw [lookupHostname, Collected.items_foldl_empty]
          exact Distinct.nodup_eraseDups _ }

/-- **Channel target.** One address is handed to gRPC as it is; several are expanded as
`expand_backend_addresses` does, and the target lists them; there is an error exactly if there is nothing to
list. -/
theorem channel_target (limit : DigitLimit) (resolver : Resolver) {addresses : List BackendAddress}
    (hparsed : ∀ address ∈ addresses, ∃ raw, parseBackendAddress limit raw = some address) :
    expandBackendAddresses resolver addresses = resolver.expanded addresses ∧
    (∀ address, addresses = [address] →
      prepareGrpcChannelEndpoints resolver addresses = .ok (address.endpoint, address.endpoint)) ∧
    (2 ≤ addresses.length → ∀ target authority,
      prepareGrpcChannelEndpoints resolver addresses = .ok (target, authority) →
      ListsBackends resolver addresses target authority) ∧
    ((∃ error, prepareGrpcChannelEndpoints resolver addresses = .error error) ↔
      addresses = [] ∨
        2 ≤ addresses.length ∧ ∀ address ∈ addresses, resolver.candidates address = []) := by
  have haddresses : ∀ address ∈ addresses, classifyHost address.host.toList = some address.kind := by
    intro address haddress
    obtain ⟨raw, hraw⟩ := hparsed address haddress
    exact (parseBackendAddress_eq_some hraw).1.classify
  refine ⟨expandBackendAddresses_eq resolver addresses, ?_, ?_, ?_⟩
  · rintro address rfl
    rfl
  · intro hlong target authority hok
    cases hfirst : resolver.firstUsable addresses with
    | none =>
        have hempty := expanded_eq_nil_iff.mpr (firstUsable_eq_none_iff.mp hfirst)
        rw [prepare_error hlong hempty] at hok
        cases hok
    | some first =>
        rw [prepare_ok hlong haddresses hfirst] at hok
        obtain ⟨rfl, rfl⟩ := Prod.mk.inj (Except.ok.inj hok)
        exact listsBackends haddresses hfirst
  · constructor
    · rintro ⟨error, herror⟩
      by_cases hlong : 2 ≤ addresses.length
      · refine .inr ⟨hlong, firstUsable_eq_none_iff.mp ?_⟩
        by_contra hsome
        obtain ⟨first, hfirst⟩ := Option.ne_none_iff_exists'.mp hsome
        rw [prepare_ok hlong haddresses hfirst] at herror
        cases herror
      · cases addresses with
        | nil => exact .inl rfl
        | cons first rest =>
            cases rest with
            | nil => cases herror
            | cons second rest => exact absurd (by simp) hlong
    · rintro (rfl | ⟨hlong, hempty⟩)
      · exact ⟨_, rfl⟩
      · exact ⟨_, prepare_error hlong (expanded_eq_nil_iff.mpr hempty)⟩

/-- A name server that knows one name, with an address of each family. -/
def dualStack (host : String) (_ : Int) : Option AddressInfo :=
  if host = "oap" then
    some
      { infos := [(.AF_INET, "10.0.0.9"), (.AF_INET6, "fe80::9%eth0"), (.AF_INET6, "::ffff:10.0.0.9")]
        inet := by decide +kernel
        inet6 := by decide +kernel }
  else none

theorem mixed_list_target : ∃ addresses,
    addresses = parseBackendAddresses .default "gone:1,oap:11800,10.0.0.1:11800,10.0.0.9:11800" ∧
    prepareGrpcChannelEndpoints (.ofGetaddrinfo dualStack) addresses =
      .ok ("ipv6:[::ffff:10.0.0.9]:11800,[fe80::9]:11800,[::ffff:10.0.0.1]:11800", "oap:11800") ∧
    ListsBackends (.ofGetaddrinfo dualStack) addresses
      "ipv6:[::ffff:10.0.0.9]:11800,[fe80::9]:11800,[::ffff:10.0.0.1]:11800" "oap:11800" := by
  have hparsed : ∀ address ∈ parseBackendAddresses .default
      "gone:1,oap:11800,10.0.0.1:11800,10.0.0.9:11800",
      ∃ raw, parseBackendAddress .default raw = some address := by
    intro address haddress
    obtain ⟨part, -, hpart⟩ := mem_parseBackendAddresses.mp haddress
    exact ⟨part, hpart⟩
  have hresult : prepareGrpcChannelEndpoints (.ofGetaddrinfo dualStack)
      (parseBackendAddresses .default "gone:1,oap:11800,10.0.0.1:11800,10.0.0.9:11800") =
      .ok ("ipv6:[::ffff:10.0.0.9]:11800,[fe80::9]:11800,[::ffff:10.0.0.1]:11800", "oap:11800") := by
    decide +kernel
  have hlong : 2 ≤ (parseBackendAddresses .default
      "gone:1,oap:11800,10.0.0.1:11800,10.0.0.9:11800").length := by
    decide +kernel
  obtain ⟨-, -, hlists, -⟩ := channel_target .default (.ofGetaddrinfo dualStack) hparsed
  exact ⟨_, rfl, hresult, hlists hlong _ _ hresult⟩

end SkyWalking
