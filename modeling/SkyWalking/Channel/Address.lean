import SkyWalking.Lib.IpAddress

/-!
# Collector backend addresses

How `SW_AGENT_COLLECTOR_BACKEND_SERVICES` is read: entries `host:port` or `[ipv6]:port`, separated by commas.
-/

namespace SkyWalking

/-- The limit of `int` on the number of digits, which the interpreter keeps at 640 or more; zero is no
limit. -/
structure DigitLimit where
  value : Nat
  value_ok : value = 0 ∨ 640 ≤ value

/-- The limit of an interpreter that was not told otherwise. -/
def DigitLimit.default : DigitLimit := ⟨4300, .inr (by decide)⟩

inductive AddressKind where
  | IPV4
  | IPV6
  | HOSTNAME
  deriving DecidableEq, Repr

structure BackendAddress where
  host : String
  port : Int
  kind : AddressKind
  deriving DecidableEq, Repr

def BackendAddress.endpoint (address : BackendAddress) : String :=
  if address.kind = .IPV6 then "[" ++ address.host ++ "]:" ++ toString address.port
  else address.host ++ ":" ++ toString address.port

/-- `_classify_host`. -/
def classifyHost (host : List Char) : Option AddressKind :=
  if host = [] ∨ (host.any fun c => Text.isspaceChar c || c.toNat < 32) ∨ '/' ∈ host then none
  else if '%' ∈ host then none
  else match IpAddress.ipAddress? host with
    | none => some .HOSTNAME
    | some (.v4 _) => some .IPV4
    | some (.v6 _) => some .IPV6

/-- The host and the port of a text, before blanks are stripped. The last of one colon is the first. -/
def splitHostPort (text : List Char) : Option (List Char × List Char) :=
  if text.head? = some '[' then
    match text.idxOf? ']' with
    | none => none
    | some closing =>
        if closing ≤ 1 ∨ text.length ≤ closing + 1 ∨ text[closing + 1]? ≠ some ':' then none
        else some ((text.take closing).drop 1, text.drop (closing + 2))
  else if text.count ':' ≠ 1 then none
  else some (text.takeWhile (· ≠ ':'), (text.dropWhile (· ≠ ':')).drop 1)

def parseBackendAddress (limit : DigitLimit) (raw : String) : Option BackendAddress :=
  let text := Text.strip raw.toList
  if text = [] then none
  else (splitHostPort text).bind fun (host, portStr) =>
    let host := Text.strip host
    let portStr := Text.strip portStr
    if host = [] ∨ portStr = [] then none
    else (Text.intWithin? limit.value (String.ofList portStr)).bind fun port =>
      if port < 1 ∨ 65535 < port then none
      else (classifyHost host).map fun kind => ⟨String.ofList host, port, kind⟩

def parseBackendAddresses (limit : DigitLimit) (services : String) : List BackendAddress :=
  let parts := ((Text.split ',' services).map fun p => String.ofList (Text.strip p.toList)).filter
    (· ≠ "")
  parts.filterMap (parseBackendAddress limit)

/-- What the normal form of an address promises. -/
structure BackendAddress.Normal (limit : DigitLimit) (address : BackendAddress) : Prop where
  parse_endpoint : parseBackendAddress limit address.endpoint = some address
  one_le_port : 1 ≤ address.port
  port_le : address.port ≤ 65535
  no_whitespace : ∀ c ∈ address.endpoint.toList, ¬ Text.isspaceChar c

/-- What stands in brackets is an IPv6 address, or could stand without them. -/
def BracketsFit (raw : String) : Prop :=
  let text := Text.strip raw.toList
  let host := Text.strip ((text.drop 1).takeWhile (· ≠ ']'))
  text.head? = some '[' →
    (IpAddress.ipv6? host).isSome ∨ ':' ∉ host ∧ host.head? ≠ some '['

instance decidableBracketsFit (raw : String) : Decidable (BracketsFit raw) :=
  inferInstanceAs (Decidable ((Text.strip raw.toList).head? = some '[' → _ ∨ _ ∧ _))

end SkyWalking
