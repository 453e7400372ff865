import SkyWalking.Channel.Address
import SkyWalking.Lib.UrlParse

/-!
# URLs without credentials

The network location is put together again from the host and the port, which leaves the userinfo out.
-/

namespace SkyWalking

open UrlParse

/-- `f':{str(port)}' if port else ''`. -/
def portSuffix : Option Int → List Char
  | none => []
  | some port => if port = 0 then [] else ':' :: (toString port).toList

/-- A URL with an illegal port is left as it is. -/
def safeNetloc (limit : DigitLimit) (netloc : List Char) : List Char :=
  match port limit.value netloc with
  | none => netloc
  | some port => (hostname netloc).getD "None".toList ++ portSuffix port

/-- `none` where `urlparse` raises. -/
def swUrlparse (limit : DigitLimit) (url : List Char) : Option ParseResult :=
  (urlparse url).map fun urlParam => { urlParam with netloc := safeNetloc limit urlParam.netloc }

/-- The parts without the userinfo. -/
structure WithoutUserinfo (limit : DigitLimit) (p r : ParseResult) : Prop where
  no_userinfo : '@' ∉ r.netloc
  same_hostname : hostname r.netloc = hostname p.netloc
  same_port : port limit.value r.netloc = port limit.value p.netloc
  same_brackets : isBracketed r.netloc = isBracketed p.netloc
  still_empty : p.netloc = [] → r.netloc = []
  same_others : r = { p with netloc := r.netloc }
  again : swUrlparse limit (urlunparse r) = some r

/-- The host and the port say all that there is besides the userinfo. -/
structure Rebuildable (netloc : List Char) (port : Option Int) : Prop where
  has_host : hostText netloc ≠ []
  no_opening : '[' ∉ hostInfo netloc
  no_closing : ']' ∉ hostInfo netloc
  port_ne_zero : port ≠ some 0

/-- The port cannot be read and there is no userinfo, or all can be put together again. -/
def CanBeSafe (limit : DigitLimit) (netloc : List Char) : Prop :=
  match port limit.value netloc with
  | none => '@' ∉ netloc
  | some port => Rebuildable netloc port

end SkyWalking
