import SkyWalking.Channel.Address

/-!
# The normal form of a backend address

The endpoint of an address is read as the same address, except where brackets were put around a host that
is no IPv6 address and that cannot do without them.
-/

namespace SkyWalking

open Text

variable {limit : DigitLimit} {host port text : List Char}

/-- What is found first stands behind everything that is different. -/
theorem idxOf?_eq_some_iff_append {α : Type} [DecidableEq α] {xs : List α} {x : α} {index : Nat} :
    xs.idxOf? x = some index ↔ ∃ left right, xs = left ++ x :: right ∧ x ∉ left ∧
      left.length = index := by
  induction xs generalizing index with
  | nil => simp
  | cons first rest ih =>
      rw [List.idxOf?_cons]
      by_cases heq : first = x
      · subst heq
        rw [if_pos BEq.rfl, Option.some.injEq]
        constructor
        · rintro rfl
          exact ⟨[], rest, rfl, List.not_mem_nil, rfl⟩
        · rintro ⟨left, right, hxs, hnot, rfl⟩
          cases left with
          | nil => rfl
          | cons head tail =>
              rw [List.cons_append, List.cons.injEq] at hxs
              exact absurd (hxs.1 ▸ List.mem_cons_self) hnot
      · rw [if_neg (by simpa using heq), Option.map_eq_some_iff]
        constructor
        · rintro ⟨index', hindex, rfl⟩
          obtain ⟨left, right, rfl, hnot, rfl⟩ := ih.mp hindex
          exact ⟨first :: left, right, rfl, by simp [hnot, Ne.symm heq], rfl⟩
        · rintro ⟨left, right, hxs, hnot, rfl⟩
          cases left with
          | nil => exact absurd (List.cons.inj hxs).1 heq
          | cons head tail =>
              obtain ⟨rfl, rfl⟩ := List.cons.inj hxs
              refine ⟨tail.length, ih.mpr ⟨tail, right, rfl, ?_, rfl⟩, rfl⟩
              exact fun hmem => hnot (List.mem_cons_of_mem _ hmem)

theorem splitHostPort_brackets (hhost : host ≠ []) (hclosing : ']' ∉ host) (port : List Char) :
    splitHostPort ('[' :: host ++ ']' :: ':' :: port) = some (host, port) := by
  have hlength : 0 < host.length := List.length_pos_iff.mpr hhost
  have hindex : ('[' :: host ++ ']' :: ':' :: port).idxOf? ']' = some (host.length + 1) :=
    idxOf?_eq_some_iff_append.mpr ⟨'[' :: host, ':' :: port, rfl, by simp [hclosing], rfl⟩
  unfold splitHostPort
  rw [if_pos (by rfl), hindex]
  dsimp only
  rw [if_neg]
  · simp
  · simp
    omega

/-- Without brackets there is one colon. -/
theorem splitHostPort_plain (hbracket : (host ++ ':' :: port).head? ≠ some '[') (hhost : ':' ∉ host)
    (hport : ':' ∉ port) : splitHostPort (host ++ ':' :: port) = some (host, port) := by
  have hall := ne_of_not_mem hhost
  unfold splitHostPort
  rw [if_neg hbracket, if_neg]
  · rw [List.takeWhile_append_of_pos hall, List.dropWhile_append_of_pos hall]
    simp
  · simp [List.count_append, List.count_eq_zero_of_not_mem hhost, List.count_eq_zero_of_not_mem hport]

theorem splitHostPort_eq_some (h : splitHostPort text = some (host, port)) :
    (host ≠ [] ∧ ']' ∉ host ∧ text = '[' :: host ++ ']' :: ':' :: port) ∨
      (text.head? ≠ some '[' ∧ ':' ∉ host ∧ ':' ∉ port ∧ text = host ++ ':' :: port) := by
  unfold splitHostPort at h
  split at h
  · next hopening =>
    split at h
    · cases h
    · next closing hindex =>
      split at h
      · cases h
      · next hgood =>
        obtain ⟨left, right, rfl, hnot, rfl⟩ := idxOf?_eq_some_iff_append.mp hindex
        rw [not_or, not_or, not_not] at hgood
        obtain ⟨hlong, -, hcolon⟩ := hgood
        cases left with
        | nil => cases hopening
        | cons first inner =>
            obtain rfl : first = '[' := Option.some.inj hopening
            rw [List.getElem?_append_right (by omega), Nat.add_sub_cancel_left] at hcolon
            cases right with
            | nil => cases hcolon
            | cons second rest =>
                obtain rfl : second = ':' := Option.some.inj hcolon
                obtain ⟨rfl, rfl⟩ : inner = host ∧ rest = port := by simpa using h
                refine .inl ⟨?_, fun hmem => hnot (List.mem_cons_of_mem _ hmem), rfl⟩
                rintro rfl
                exact hlong (le_refl 1)
  · next hopening =>
    split at h
    · cases h
    · next hcount =>
      rw [not_not] at hcount
      obtain ⟨left, right, rfl, hleft⟩ :=
        List.eq_append_cons_of_mem (List.count_pos_iff.mp (by omega : 0 < text.count ':'))
      have hright : ':' ∉ right := by
        rw [List.count_append, List.count_cons_self, List.count_eq_zero_of_not_mem hleft] at hcount
        exact List.count_eq_zero.mp (by omega)
      have hplain := splitHostPort_plain hopening hleft hright
      unfold splitHostPort at hplain
      rw [if_neg hopening, if_neg (by simpa using hcount), h] at hplain
      obtain ⟨rfl, rfl⟩ := Prod.mk.inj (Option.some.inj hplain)
      exact .inr ⟨hopening, hleft, hright, rfl⟩

/-- What is known of every address that is returned. -/
structure BackendAddress.Accepted (address : BackendAddress) : Prop where
  classify : classifyHost address.host.toList = some address.kind
  one_le_port : 1 ≤ address.port
  port_le : address.port ≤ 65535

/-- The host was classified, so it has no blanks. -/
theorem host_of_classifyHost {kind : AddressKind} (h : classifyHost host = some kind) :
    host ≠ [] ∧ (∀ c ∈ host, ¬ isspaceChar c) ∧ '%' ∉ host := by
  unfold classifyHost at h
  split at h
  · cases h
  · next hgood =>
    split at h
    · cases h
    · next hzone =>
      rw [not_or, not_or] at hgood
      refine ⟨hgood.1, fun c hc hspace => hgood.2.1 ?_, hzone⟩
      exact List.any_eq_true.mpr ⟨c, hc, by simp [hspace]⟩

theorem classifyHost_cases {kind : AddressKind} (h : classifyHost host = some kind) :
    kind = .IPV4 ∧ (IpAddress.ipv4? host).isSome ∨
      kind = .IPV6 ∧ IpAddress.ipv4? host = none ∧ (IpAddress.ipv6? host).isSome ∨
      kind = .HOSTNAME ∧ IpAddress.ipv4? host = none ∧ IpAddress.ipv6? host = none := by
  obtain ⟨-, -, hzone⟩ := host_of_classifyHost h
  unfold classifyHost at h
  rw [if_neg hzone] at h
  split at h
  · cases h
  · unfold IpAddress.ipAddress? at h
    cases hv4 : IpAddress.ipv4? host with
    | some octets =>
        rw [hv4] at h
        exact .inl ⟨(Option.some.inj h).symm, rfl⟩
    | none =>
        rw [hv4] at h
        cases hv6 : IpAddress.ipv6? host with
        | none =>
            rw [hv6] at h
            exact .inr (.inr ⟨(Option.some.inj h).symm, rfl, rfl⟩)
        | some hextets =>
            rw [hv6] at h
            exact .inr (.inl ⟨(Option.some.inj h).symm, rfl, rfl⟩)

/-- No IPv4 address has a colon. -/
theorem ipv4?_eq_none_of_ipv6? (hipv6 : (IpAddress.ipv6? host).isSome) (hzone : '%' ∉ host) :
    IpAddress.ipv4? host = none := by
  obtain ⟨hcolon, -⟩ := IpAddress.chars_of_ipv6? hipv6 hzone
  by_contra hipv4
  obtain hdigit | hdot :=
    IpAddress.chars_of_ipv4? (Option.isSome_iff_ne_none.mpr hipv4) ':' hcolon
  · exact absurd hdigit (by decide)
  · exact absurd hdot (by decide)

/-- A host is classified as IPv6 exactly if it is such an address. -/
theorem classifyHost_IPV6_iff {kind : AddressKind} (h : classifyHost host = some kind) :
    kind = .IPV6 ↔ (IpAddress.ipv6? host).isSome := by
  obtain ⟨-, -, hzone⟩ := host_of_classifyHost h
  obtain ⟨rfl, hipv4⟩ | ⟨rfl, -, hipv6⟩ | ⟨rfl, -, hipv6⟩ := classifyHost_cases h
  · refine iff_of_false (by decide) fun hipv6 => ?_
    rw [ipv4?_eq_none_of_ipv6? hipv6 hzone] at hipv4
    cases hipv4
  · exact iff_of_true rfl hipv6
  · exact iff_of_false (by decide) (by simp [hipv6])

/-- An IPv6 address can stand in brackets. -/
theorem not_mem_of_IPV6 (h : classifyHost host = some .IPV6) : ']' ∉ host := by
  obtain ⟨-, -, hzone⟩ := host_of_classifyHost h
  intro hmem
  obtain ⟨-, hchars⟩ := IpAddress.chars_of_ipv6? ((classifyHost_IPV6_iff h).mp rfl) hzone
  obtain hhex | hcolon | hdot := hchars ']' hmem
  · exact absurd hhex (by decide)
  · exact absurd hcolon (by decide)
  · exact absurd hdot (by decide)

/-- What an accepted text looks like. -/
theorem parseBackendAddress_eq_some {raw : String} {address : BackendAddress}
    (h : parseBackendAddress limit raw = some address) :
    address.Accepted ∧ ∃ host port, splitHostPort (strip raw.toList) = some (host, port) ∧
      address.host.toList = strip host := by
  unfold parseBackendAddress at h
  dsimp only at h
  split at h
  · cases h
  · obtain ⟨⟨host, portStr⟩, hsplit, hrest⟩ := Option.bind_eq_some_iff.mp h
    dsimp only at hrest
    split at hrest
    · cases hrest
    · obtain ⟨port, -, hrest⟩ := Option.bind_eq_some_iff.mp hrest
      split at hrest
      · cases hrest
      · next hport =>
        obtain ⟨kind, hkind, rfl⟩ := Option.map_eq_some_iff.mp hrest
        rw [not_or] at hport
        refine ⟨⟨?_, by dsimp only; omega, by dsimp only; omega⟩, host, portStr, hsplit, ?_⟩
        · rw [String.toList_ofList]
          exact hkind
        · exact String.toList_ofList

section Endpoint

variable {address : BackendAddress}

theorem intWithin?_port {port : Int} (hone : 1 ≤ port) (hle : port ≤ 65535) :
    intWithin? limit.value (toString port) = some port := by
  have hnonneg : 0 ≤ port := by omega
  have hlength : (toString port).toList.length ≤ 5 := by
    rw [toString_of_nonneg hnonneg, Nat.toList_repr]
    exact Nat.toDigits_length 10 _ 5 (by decide) (by omega)
  have hcount := List.countP_le_length (p := fun c => (decimal? c).isSome) (l := (toString port).toList)
  have hlimit := limit.value_ok
  unfold intWithin?
  rw [if_neg (by omega)]
  exact int?_toString hnonneg

theorem endpoint_toList (address : BackendAddress) : address.endpoint.toList =
    if address.kind = .IPV6 then '[' :: address.host.toList ++ ']' :: ':' :: (toString address.port).toList
    else address.host.toList ++ ':' :: (toString address.port).toList := by
  unfold BackendAddress.endpoint
  split <;> simp

theorem BackendAddress.Accepted.isDigit_port (h : address.Accepted) :
    ∀ c ∈ (toString address.port).toList, c.isDigit := by
  have hnonneg : 0 ≤ address.port := by
    have hone := h.one_le_port
    omega
  rw [toString_of_nonneg hnonneg]
  exact isDigit_of_mem_repr

theorem BackendAddress.Accepted.not_isspaceChar_endpoint (h : address.Accepted) :
    ∀ c ∈ address.endpoint.toList, ¬ isspaceChar c := by
  obtain ⟨-, hhost, -⟩ := host_of_classifyHost h.classify
  have hport := fun c hc => not_isspaceChar_of_isDigit (h.isDigit_port c hc)
  have hmarks : ¬ isspaceChar '[' ∧ ¬ isspaceChar ']' ∧ ¬ isspaceChar ':' := by decide
  obtain ⟨hopening, hclosing, hcolon⟩ := hmarks
  have hplain : ∀ c ∈ ':' :: (toString address.port).toList, ¬ isspaceChar c :=
    List.forall_mem_cons.mpr ⟨hcolon, hport⟩
  rw [endpoint_toList]
  split
  · rw [List.cons_append]
    refine List.forall_mem_cons.mpr ⟨hopening, fun c hc => ?_⟩
    obtain hc | hc := List.mem_append.mp hc
    · exact hhost c hc
    · obtain rfl | hc := List.mem_cons.mp hc
      · exact hclosing
      · exact hplain c hc
  · intro c hc
    obtain hc | hc := List.mem_append.mp hc
    · exact hhost c hc
    · exact hplain c hc

/-- The endpoint is read back once it is split in the right place. -/
theorem BackendAddress.Accepted.parse_of_split (h : address.Accepted)
    (hsplit : splitHostPort address.endpoint.toList =
      some (address.host.toList, (toString address.port).toList)) :
    parseBackendAddress limit address.endpoint = some address := by
  obtain ⟨hne, hhost, -⟩ := host_of_classifyHost h.classify
  have hstrip : strip address.endpoint.toList = address.endpoint.toList :=
    strip_of_not_isspaceChar h.not_isspaceChar_endpoint
  have hport : (toString address.port).toList ≠ [] := by
    have hnonneg : 0 ≤ address.port := by
      have hone := h.one_le_port
      omega
    rw [toString_of_nonneg hnonneg, Nat.toList_repr]
    exact Nat.toDigits_ne_nil
  have hendpoint : address.endpoint.toList ≠ [] := by
    rw [endpoint_toList]
    split <;> simp
  have hrange : ¬ (address.port < 1 ∨ 65535 < address.port) := by
    have hone := h.one_le_port
    have hle := h.port_le
    omega
  have hdigits : ∀ c ∈ (toString address.port).toList, ¬ isspaceChar c := fun c hc =>
    not_isspaceChar_of_isDigit (h.isDigit_port c hc)
  unfold parseBackendAddress
  dsimp only
  rw [hstrip, if_neg hendpoint, hsplit, Option.bind_some, strip_of_not_isspaceChar hhost,
    strip_of_not_isspaceChar hdigits, if_neg (not_or.mpr ⟨hne, hport⟩), String.ofList_toList,
    intWithin?_port h.one_le_port h.port_le, Option.bind_some, if_neg hrange, h.classify,
    Option.map_some, String.ofList_toList]

/-- The host can stand in its endpoint. -/
def BackendAddress.Fits (address : BackendAddress) : Prop :=
  address.kind = .IPV6 ∨ ':' ∉ address.host.toList ∧ address.host.toList.head? ≠ some '['

theorem BackendAddress.Accepted.parse_endpoint_iff (h : address.Accepted)
    (hclosing : address.host.toList.head? = some '[' → ']' ∉ address.host.toList) :
    parseBackendAddress limit address.endpoint = some address ↔ address.Fits := by
  obtain ⟨hne, hhost, -⟩ := host_of_classifyHost h.classify
  have hportColon : ':' ∉ (toString address.port).toList := fun hmem =>
    absurd (h.isDigit_port ':' hmem) (by decide)
  have hhead : (address.host.toList ++ ':' :: (toString address.port).toList).head? =
      address.host.toList.head? := by
    obtain ⟨first, rest, hcons⟩ := List.exists_cons_of_ne_nil hne
    rw [hcons]
    rfl
  by_cases hkind : address.kind = .IPV6
  · refine iff_of_true ?_ (.inl hkind)
    apply h.parse_of_split
    rw [endpoint_toList, if_pos hkind]
    exact splitHostPort_brackets hne (not_mem_of_IPV6 (hkind ▸ h.classify)) _
  · constructor
    · intro hparse
      refine .inr ?_
      obtain ⟨-, host, port, hsplit, -⟩ := parseBackendAddress_eq_some hparse
      rw [strip_of_not_isspaceChar h.not_isspaceChar_endpoint, endpoint_toList, if_neg hkind] at hsplit
      obtain ⟨-, -, hbracket⟩ | ⟨hbracket, hcolon, hport, hplain⟩ := splitHostPort_eq_some hsplit
      · have hfirst : address.host.toList.head? = some '[' := by
          rw [← hhead, hbracket]
          rfl
        have hmem : ']' ∈ address.host.toList ++ ':' :: (toString address.port).toList := by
          rw [hbracket]
          simp
        obtain hmem | hmem := List.mem_append.mp hmem
        · exact absurd hmem (hclosing hfirst)
        · obtain hmem | hmem := List.mem_cons.mp hmem
          · exact absurd hmem (by decide)
          · exact absurd (h.isDigit_port ']' hmem) (by decide)
      · have hcount := congrArg (List.count ':') hplain
        rw [List.count_append, List.count_append, List.count_cons_self, List.count_cons_self,
          List.count_eq_zero_of_not_mem hportColon, List.count_eq_zero_of_not_mem hcolon,
          List.count_eq_zero_of_not_mem hport] at hcount
        exact ⟨List.count_eq_zero.mp (by omega), hhead ▸ hbracket⟩
    · rintro (hipv6 | ⟨hcolon, hbracket⟩)
      · exact absurd hipv6 hkind
      · apply h.parse_of_split
        rw [endpoint_toList, if_neg hkind]
        exact splitHostPort_plain (hhead ▸ hbracket) hcolon hportColon

end Endpoint

/-- Blanks before the host cannot hide a bracket: the text was stripped. -/
theorem head?_host_of_plain {raw : String} (hplain : strip raw.toList = host ++ ':' :: port)
    (hbracket : (strip raw.toList).head? ≠ some '[') : (strip host).head? ≠ some '[' := by
  cases host with
  | nil => exact fun h => nomatch h
  | cons first rest =>
      have hfirst : (strip raw.toList).head? = some first := by
        rw [hplain]
        rfl
      rw [head?_strip_of_not_isspaceChar rfl (not_isspaceChar_of_head?_strip hfirst), ← hfirst]
      exact hbracket

/-- The condition on the text is one on the host that was read from it. -/
theorem fits_iff_bracketsFit {raw : String} {address : BackendAddress}
    (h : parseBackendAddress limit raw = some address) : address.Fits ↔ BracketsFit raw := by
  obtain ⟨haccepted, host, port, hsplit, hhost⟩ := parseBackendAddress_eq_some h
  have hkind := classifyHost_IPV6_iff haccepted.classify
  unfold BackendAddress.Fits BracketsFit
  dsimp only
  rw [hkind, hhost]
  obtain ⟨-, hclosing, hbracket⟩ | ⟨hbracket, hcolon, -, hplain⟩ := splitHostPort_eq_some hsplit
  · have hinner : ((strip raw.toList).drop 1).takeWhile (· ≠ ']') = host := by
      rw [hbracket, List.cons_append, List.drop_one, List.tail_cons,
        List.takeWhile_append_of_pos (ne_of_not_mem hclosing)]
      simp
    have hopening : (strip raw.toList).head? = some '[' := by
      rw [hbracket]
      rfl
    rw [hinner]
    exact ⟨fun hfits _ => hfits, fun hfits => hfits hopening⟩
  · refine iff_of_true (.inr ⟨fun hmem => hcolon (mem_of_mem_strip hmem), ?_⟩) fun hfirst =>
      absurd hfirst hbracket
    exact head?_host_of_plain hplain hbracket

theorem parse_endpoint_iff {raw : String} {address : BackendAddress}
    (h : parseBackendAddress limit raw = some address) :
    parseBackendAddress limit address.endpoint = some address ↔ BracketsFit raw := by
  obtain ⟨haccepted, host, port, hsplit, hhost⟩ := parseBackendAddress_eq_some h
  refine (haccepted.parse_endpoint_iff fun hfirst hmem => ?_).trans (fits_iff_bracketsFit h)
  rw [hhost] at hfirst hmem
  obtain ⟨-, hclosing, -⟩ | ⟨hbracket, -, -, hplain⟩ := splitHostPort_eq_some hsplit
  · exact hclosing (mem_of_mem_strip hmem)
  · exact head?_host_of_plain hplain hbracket hfirst

theorem normal_iff {raw : String} {address : BackendAddress}
    (h : parseBackendAddress limit raw = some address) : address.Normal limit ↔ BracketsFit raw := by
  obtain ⟨haccepted, -⟩ := parseBackendAddress_eq_some h
  rw [← parse_endpoint_iff h]
  constructor
  · exact fun hnormal => hnormal.parse_endpoint
  · exact fun hparse =>
      ⟨hparse, haccepted.one_le_port, haccepted.port_le, haccepted.not_isspaceChar_endpoint⟩

/-- The entries of a list of services, without the blanks around them. -/
def serviceParts (services : String) : List String :=
  ((split ',' services).map fun p => String.ofList (strip p.toList)).filter (· ≠ "")

theorem comma_not_mem_endpoint {raw : String} {address : BackendAddress}
    (h : parseBackendAddress limit raw = some address) (hraw : ',' ∉ raw.toList) :
    ',' ∉ address.endpoint.toList := by
  obtain ⟨haccepted, host, port, hsplit, hhost⟩ := parseBackendAddress_eq_some h
  have hsub : ∀ c ∈ host, c ∈ strip raw.toList := by
    intro c hc
    obtain ⟨-, -, hbracket⟩ | ⟨-, -, -, hplain⟩ := splitHostPort_eq_some hsplit
    · rw [hbracket]
      exact List.mem_append_left _ (List.mem_cons_of_mem _ hc)
    · rw [hplain]
      exact List.mem_append_left _ hc
  have hnot : ',' ∉ address.host.toList := by
    rw [hhost]
    exact fun hmem => hraw (mem_of_mem_strip (hsub ',' (mem_of_mem_strip hmem)))
  have hport : ',' ∉ (toString address.port).toList := fun hmem =>
    absurd (haccepted.isDigit_port ',' hmem) (by decide)
  rw [endpoint_toList]
  generalize (toString address.port).toList = digits at hport ⊢
  split
  · simp [hnot, hport]
  · simp [hnot, hport]

theorem parseBackendAddresses_eq (services : String) : parseBackendAddresses limit services =
    (serviceParts services).filterMap (parseBackendAddress limit) := rfl

theorem parse_strip (part : String) : parseBackendAddress limit (String.ofList (strip part.toList)) =
    parseBackendAddress limit part := by
  unfold parseBackendAddress
  rw [String.toList_ofList, strip_strip]

/-- The accepted entries, before they are stripped. -/
theorem mem_parseBackendAddresses {services : String} {address : BackendAddress} :
    address ∈ parseBackendAddresses limit services ↔
      ∃ part ∈ split ',' services, parseBackendAddress limit part = some address := by
  rw [parseBackendAddresses_eq, List.mem_filterMap]
  constructor
  · rintro ⟨stripped, hstripped, hparse⟩
    obtain ⟨part, hpart, rfl⟩ := List.mem_map.mp (List.mem_filter.mp hstripped).1
    exact ⟨part, hpart, (parse_strip part).symm.trans hparse⟩
  · rintro ⟨part, hpart, hparse⟩
    refine ⟨String.ofList (strip part.toList), ?_, (parse_strip part).trans hparse⟩
    refine List.mem_filter.mpr ⟨List.mem_map_of_mem hpart, ?_⟩
    rw [decide_eq_true_eq]
    intro hempty
    rw [← parse_strip, hempty] at hparse
    cases hparse

/-- Texts without commas and blanks are the parts of the text that they are joined to. -/
theorem serviceParts_join {endpoints : List String} (hcomma : ∀ e ∈ endpoints, ',' ∉ e.toList)
    (hblank : ∀ e ∈ endpoints, e ≠ "" ∧ ∀ c ∈ e.toList, ¬ isspaceChar c) :
    serviceParts (join ',' endpoints) = endpoints := by
  unfold serviceParts
  by_cases hne : endpoints = []
  · rw [hne]
    rfl
  · have hstrip : endpoints.map (fun e => String.ofList (strip e.toList)) = endpoints := by
      conv_rhs => rw [← List.map_id endpoints]
      refine List.map_congr_left fun e he => ?_
      rw [strip_of_not_isspaceChar (hblank e he).2, String.ofList_toList]
      rfl
    rw [split_join hne hcomma, hstrip, List.filter_eq_self]
    exact fun e he => decide_eq_true (hblank e he).1

/-- Nothing is dropped and nothing is changed. -/
theorem filterMap_eq_self_iff {α : Type} {f : α → Option α} {xs : List α} :
    xs.filterMap f = xs ↔ ∀ x ∈ xs, f x = some x := by
  induction xs with
  | nil => simp
  | cons x rest ih =>
      rw [List.forall_mem_cons, ← ih]
      cases hx : f x with
      | none =>
          rw [List.filterMap_cons_none hx]
          refine iff_of_false (fun heq => ?_) fun hboth => nomatch hboth.1
          have hlength := List.length_filterMap_le f rest
          rw [heq, List.length_cons] at hlength
          omega
      | some y =>
          rw [List.filterMap_cons_some hx, List.cons.injEq, Option.some.injEq]

/-- The list survives exactly if every address in it does: the others are dropped. -/
theorem parseBackendAddresses_join_iff {services : String} :
    parseBackendAddresses limit (join ',' ((parseBackendAddresses limit services).map
      BackendAddress.endpoint)) = parseBackendAddresses limit services ↔
    ∀ address ∈ parseBackendAddresses limit services,
      parseBackendAddress limit address.endpoint = some address := by
  have hparts : serviceParts (join ',' ((parseBackendAddresses limit services).map
      BackendAddress.endpoint)) = (parseBackendAddresses limit services).map
        BackendAddress.endpoint := by
    apply serviceParts_join
    · intro e he
      obtain ⟨address, haddress, rfl⟩ := List.mem_map.mp he
      obtain ⟨part, hpart, hparse⟩ := mem_parseBackendAddresses.mp haddress
      exact comma_not_mem_endpoint hparse (not_mem_of_mem_split hpart)
    · intro e he
      obtain ⟨address, haddress, rfl⟩ := List.mem_map.mp he
      obtain ⟨part, -, hparse⟩ := mem_parseBackendAddresses.mp haddress
      obtain ⟨haccepted, -⟩ := parseBackendAddress_eq_some hparse
      refine ⟨fun hempty => ?_, haccepted.not_isspaceChar_endpoint⟩
      have hnil := congrArg String.toList hempty
      rw [endpoint_toList] at hnil
      split at hnil <;> simp at hnil
  rw [parseBackendAddresses_eq (join ',' _), hparts, List.filterMap_map]
  exact filterMap_eq_self_iff

/-- **Normal form.** An address that was read from a text has a normal form exactly if its brackets fit, and
a list of them is read back exactly if the brackets of all its accepted entries fit. -/
theorem address_normal_form_iff (limit : DigitLimit) :
    (∀ (raw : String) (address : BackendAddress), parseBackendAddress limit raw = some address →
      (address.Normal limit ↔ BracketsFit raw)) ∧
    ∀ services : String,
      parseBackendAddresses limit (join ',' ((parseBackendAddresses limit services).map
        BackendAddress.endpoint)) = parseBackendAddresses limit services ↔
      ∀ part ∈ split ',' services, (parseBackendAddress limit part).isSome → BracketsFit part := by
  refine ⟨fun raw address => normal_iff, fun services => parseBackendAddresses_join_iff.trans ?_⟩
  constructor
  · intro hall part hpart hsome
    obtain ⟨address, hparse⟩ := Option.isSome_iff_exists.mp hsome
    exact (parse_endpoint_iff hparse).mp
      (hall address (mem_parseBackendAddresses.mpr ⟨part, hpart, hparse⟩))
  · intro hall address haddress
    obtain ⟨part, hpart, hparse⟩ := mem_parseBackendAddresses.mp haddress
    exact (parse_endpoint_iff hparse).mpr (hall part hpart (by rw [hparse]; rfl))

theorem ipv6_entry_normal :
    (⟨"::1", 11800, .IPV6⟩ : BackendAddress).Normal .default ↔ BracketsFit " [ ::1]:+11_800 " :=
  (address_normal_form_iff .default).1 " [ ::1]:+11_800 " ⟨"::1", 11800, .IPV6⟩ (by decide +kernel)

/-- A host name in brackets that has a colon is given an endpoint without brackets, which is refused. -/
theorem bracketed_name_has_no_normal_form :
    ¬ ∀ (raw : String) (address : BackendAddress),
      parseBackendAddress .default raw = some address → address.Normal .default := by
  intro hall
  have hparse : parseBackendAddress .default "[a:b]:80" = some ⟨"a:b", 80, .HOSTNAME⟩ := by
    decide +kernel
  have hback : parseBackendAddress .default "a:b:80" = none := by decide +kernel
  have hnormal := (hall "[a:b]:80" _ hparse).parse_endpoint
  exact nomatch hback.symm.trans hnormal

end SkyWalking
