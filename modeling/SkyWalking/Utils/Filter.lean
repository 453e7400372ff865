import SkyWalking.Lib.Text

/-!
# Credentials in logged text

The filter that the log reporter applies in its safe mode, and what it is meant to do: a text is made of URLs and
of text without one, and each URL loses its userinfo.
-/

namespace SkyWalking

/-- What `://` looks like. -/
def schemeEnd : List Char := "://".toList

/-- How long `(.*?)@` is at the start of a text. A dot does not match a line feed. -/
def matchUserinfo : List Char → Option Nat
  | [] => none
  | c :: rest =>
      if c = '@' then some 1
      else if c = '\n' then none
      else (matchUserinfo rest).map (· + 1)

/-- `re.sub(r'://(.*?)@', r'://', target)`. The first `skip` characters still belong to a match. -/
def subUserinfo : Nat → List Char → List Char
  | _, [] => []
  | skip + 1, _ :: rest => subUserinfo skip rest
  | 0, c :: rest =>
      if schemeEnd.isPrefixOf (c :: rest) then
        match matchUserinfo (rest.drop 2) with
        | none => c :: subUserinfo 0 rest
        | some length => schemeEnd ++ subUserinfo (2 + length) rest
      else c :: subUserinfo 0 rest

def swFilter (agentLogReporterSafeMode : Bool) (target : List Char) : List Char :=
  if agentLogReporterSafeMode then subUserinfo 0 target else target

example : swFilter true "user:pw in http://user:pw@localhost:8080".toList =
    "user:pw in http://localhost:8080".toList := by decide

/-- What may stand in a scheme. -/
def isSchemeChar (c : Char) : Bool := c.isAlphanum || c = '+' || c = '-' || c = '.'

/-- A letter, and then characters that may stand in a scheme. -/
def IsScheme (scheme : List Char) : Prop :=
  ∃ letter rest, scheme = letter :: rest ∧ letter.isAlpha ∧ ∀ c ∈ rest, isSchemeChar c

/-- The text ends with a scheme. -/
def endsWithScheme (text : List Char) : Bool :=
  (text.rtakeWhile isSchemeChar).any Char.isAlpha

/-- What ends the authority of a URL. -/
def isDelimiter (c : Char) : Bool := c = '/' || c = '?' || c = '#' || Text.isspaceChar c

def authority (text : List Char) : List Char := text.takeWhile fun c => !isDelimiter c

/-- No `://` in the text stands after a scheme. -/
def UrlFree (text : List Char) : Prop :=
  ∀ before after, text = before ++ (schemeEnd ++ after) → endsWithScheme before = false

/-- `scheme://[userinfo@]host...` and the text up to the scheme of the next URL. -/
structure Url where
  scheme : List Char
  userinfo : Option (List Char)
  rest : List Char
  scheme_ok : IsScheme scheme
  userinfo_ok : ∀ user ∈ userinfo, ∀ c ∈ user, isDelimiter c = false
  host_ok : '@' ∉ authority rest
  rest_ok : UrlFree rest

/-- Text without a URL, and then the URLs with what follows each of them. -/
structure Message where
  before : List Char
  urls : List Url
  before_ok : UrlFree before

/-- The userinfo and the `@` after it. -/
def Url.credentials (url : Url) : List Char := (url.userinfo.map (· ++ ['@'])).getD []

def Url.text (url : Url) : List Char :=
  url.scheme ++ (schemeEnd ++ (url.credentials ++ url.rest))

def Message.text (message : Message) : List Char :=
  message.before ++ message.urls.flatMap Url.text

/-- The URL without its userinfo and the `@` after it. -/
def Url.safe (url : Url) : Url :=
  { url with userinfo := none, userinfo_ok := by simp }

def Message.safe (message : Message) : Message :=
  { message with urls := message.urls.map Url.safe }

def line (text : List Char) : List Char := text.takeWhile (· ≠ '\n')

/-- An `@` follows on the line. The text is given as its parts between one `://` and the next. -/
def atFollows : List (List Char) → Bool
  | [] => false
  | part :: rest => '@' ∈ line part || ('\n' ∉ part && atFollows rest)

/-- Every `://` that an `@` follows on its line belongs to a URL with a userinfo, and up to the next `://` there is
no `@` on the line but the one after the userinfo. `before` is the part before the first `://`. -/
def OneAtEach : List Char → List (List Char) → Prop
  | _, [] => True
  | before, part :: rest =>
      (atFollows (part :: rest) →
        endsWithScheme before ∧ '@' ∈ authority part ∧ (line part).count '@' = 1) ∧
      OneAtEach part rest

instance decidableOneAtEach : ∀ before parts, Decidable (OneAtEach before parts)
  | _, [] => isTrue trivial
  | _, part :: rest =>
      have := decidableOneAtEach part rest
      inferInstanceAs (Decidable ((atFollows (part :: rest) → _) ∧ OneAtEach part rest))

/-- `OneAtEach` of the parts of a text. -/
def Unambiguous (text : List Char) : Prop :=
  OneAtEach ((Text.splitBy schemeEnd text).headD []) (Text.splitBy schemeEnd text).tail

instance (text : List Char) : Decidable (Unambiguous text) :=
  inferInstanceAs (Decidable (OneAtEach _ _))

end SkyWalking
