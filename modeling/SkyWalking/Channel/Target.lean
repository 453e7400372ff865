import SkyWalking.Channel.Address

/-!
# The target of the channel to the collector

One address is left to gRPC. Several addresses are resolved once and written as a static list of literal
addresses, which gRPC tries in turn.
-/

namespace SkyWalking

/-- `ValueError`, with its text. -/
structure ValueError where
  message : String
  deriving DecidableEq, Repr

inductive AddressFamily where
  | AF_INET
  | AF_INET6
  | other
  deriving DecidableEq, Repr

/-- The families and the addresses that `socket.getaddrinfo` returns: of the family that they are given
for, and with a zone at most after an IPv6 address. -/
structure AddressInfo where
  infos : List (AddressFamily × String)
  inet : ∀ info ∈ infos, info.1 = .AF_INET →
    (IpAddress.ipv4? info.2.toList).isSome
  inet6 : ∀ info ∈ infos, info.1 = .AF_INET6 →
    (IpAddress.ipv6? (info.2.toList.takeWhile (· ≠ '%'))).isSome

/-- `(kind, host, port)`, by which addresses are compared. -/
def BackendAddress.key (address : BackendAddress) : AddressKind × String × Int :=
  (address.kind, address.host, address.port)

/-- A list of addresses with the keys that it has. -/
structure Collected where
  items : List BackendAddress
  seen : List (AddressKind × String × Int)

def Collected.empty : Collected := ⟨[], []⟩

/-- The body of the innermost loops. -/
def Collected.add (collected : Collected) (item : BackendAddress) : Collected :=
  if item.key ∈ collected.seen then collected
  else
    { items := collected.items ++ [item]
      seen := collected.seen ++ [item.key] }

/-- The address that an entry of the answer stands for; addresses that wrap an IPv4 address are left out. -/
def resolvedAddress (port : Int) : AddressFamily × String → Option BackendAddress
  | (.AF_INET, ip) => some ⟨ip, port, .IPV4⟩
  | (.AF_INET6, ip) =>
      let ip := ip.toList.takeWhile (· ≠ '%')
      match IpAddress.ipAddress? ip with
      | none => none
      | some (.v4 _) => none
      | some (.v6 hextets) =>
          if IpAddress.isIpv4Mapped hextets then none else some ⟨String.ofList ip, port, .IPV6⟩
  | (.other, _) => none

/-- `_lookup_hostname`; `none` if the lookup fails or takes too long. -/
def lookupHostname (infos : Option AddressInfo) (port : Int) : List BackendAddress :=
  match infos with
  | none => []
  | some answer =>
      ((answer.infos.filterMap (resolvedAddress port)).foldl Collected.add .empty).items

/-- Hostnames to distinct literal addresses. -/
structure Resolver where
  lookup : String → Int → List BackendAddress
  classify : ∀ host port, ∀ address ∈ lookup host port,
    classifyHost address.host.toList = some address.kind
  literal : ∀ host port, ∀ address ∈ lookup host port, address.kind ≠ .HOSTNAME
  port_eq : ∀ host port, ∀ address ∈ lookup host port, address.port = port
  nodup : ∀ host port, (lookup host port).Nodup

/-- The literal addresses of an entry. -/
def Resolver.candidates (resolver : Resolver) (address : BackendAddress) : List BackendAddress :=
  if address.kind = .HOSTNAME then resolver.lookup address.host address.port else [address]

def expandBackendAddresses (resolver : Resolver) (addresses : List BackendAddress) :
    List BackendAddress :=
  (addresses.foldl (fun collected address =>
    (resolver.candidates address).foldl Collected.add collected) .empty).items

/-- `_ipv4_mapped_v6`. -/
def ipv4MappedV6 (ipv4 : String) : String := "::ffff:" ++ ipv4

/-- How an entry is written. -/
def plainEntry (address : BackendAddress) : String :=
  address.host ++ ":" ++ toString address.port

def bracketedEntry (address : BackendAddress) : String :=
  "[" ++ address.host ++ "]:" ++ toString address.port

def mixedEntry (address : BackendAddress) : String :=
  if address.kind = .IPV4 then
    "[" ++ ipv4MappedV6 address.host ++ "]:" ++ toString address.port
  else "[" ++ address.host ++ "]:" ++ toString address.port

def encodeSwStaticForCCore (addresses : List BackendAddress) : Except ValueError String :=
  if addresses = [] then
    .error ⟨"No valid collector backend address in SW_AGENT_COLLECTOR_BACKEND_SERVICES"⟩
  else if ∃ address ∈ addresses, address.kind = .HOSTNAME then
    .error ⟨"encode_sw_static_for_c_core requires literal IP endpoints"⟩
  else if ∀ address ∈ addresses, address.kind = .IPV4 then
    .ok ("ipv4:" ++ Text.join ',' (addresses.map plainEntry))
  else if ∀ address ∈ addresses, address.kind = .IPV6 then
    .ok ("ipv6:" ++ Text.join ',' (addresses.map bracketedEntry))
  else .ok ("ipv6:" ++ Text.join ',' (addresses.map mixedEntry))

/-- The local variables of the loop of `prepare_grpc_channel_endpoints`. -/
structure Preparation where
  toEncode : Collected
  authority : Option String

/-- One turn of the loop. -/
def Preparation.visit (resolver : Resolver) (preparation : Preparation) (orig : BackendAddress) :
    Preparation :=
  if orig.kind = .HOSTNAME then
    let candidates := resolver.lookup orig.host orig.port
    if candidates = [] then preparation
    else
      { toEncode := candidates.foldl Collected.add preparation.toEncode
        authority := preparation.authority.or (some orig.endpoint) }
  else
    { toEncode := [orig].foldl Collected.add preparation.toEncode
      authority := preparation.authority.or (some orig.endpoint) }

/-- The target of the channel and its default authority. -/
def prepareGrpcChannelEndpoints (resolver : Resolver) (addresses : List BackendAddress) :
    Except ValueError (String × String) :=
  match addresses with
  | [] => .error ⟨"No valid collector backend address in SW_AGENT_COLLECTOR_BACKEND_SERVICES"⟩
  | [address] => .ok (address.endpoint, address.endpoint)
  | addresses =>
      let preparation := addresses.foldl (Preparation.visit resolver) ⟨.empty, none⟩
      let toEncode := preparation.toEncode.items
      match toEncode with
      | [] => .error ⟨"No usable collector backend address after DNS expansion of " ++
          "SW_AGENT_COLLECTOR_BACKEND_SERVICES"⟩
      | first :: _ =>
          let authority := preparation.authority.getD first.endpoint
          (encodeSwStaticForCCore toEncode).map fun target => (target, authority)

/-- The distinct candidates of all entries, in order of their first occurrence. -/
def Resolver.expanded (resolver : Resolver) (addresses : List BackendAddress) :
    List BackendAddress :=
  (addresses.flatMap resolver.candidates).eraseDups

/-- Targets are written in one of two ways. -/
def targetScheme (items : List BackendAddress) : String :=
  if ∀ address ∈ items, address.kind = .IPV4 then "ipv4:" else "ipv6:"

def targetEntry (items : List BackendAddress) (address : BackendAddress) : String :=
  if ∀ address ∈ items, address.kind = .IPV4 then plainEntry address else mixedEntry address

/-- The target lists the expanded addresses, and the authority is the first entry that has any. -/
structure ListsBackends (resolver : Resolver) (addresses : List BackendAddress)
    (target authority : String) : Prop where
  entries : ∃ rest, target = targetScheme (resolver.expanded addresses) ++ rest ∧
    Text.split ',' rest =
      (resolver.expanded addresses).map (targetEntry (resolver.expanded addresses))
  authority : ∃ first, addresses.find? (fun address => resolver.candidates address ≠ []) = some first ∧
    authority = first.endpoint

end SkyWalking
