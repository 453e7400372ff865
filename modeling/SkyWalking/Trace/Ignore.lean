import SkyWalking.Lib.RegexSpelling
import SkyWalking.Lib.Text

/-!
# Names that are not traced

`finalize_regex` of `config.py` and the checks that use what it builds. A text that `re.compile` rejects
leaves no expression. `lookup` is `unicodedata.lookup`, which `re.compile` asks for the characters that a text
has by their names.
-/

namespace SkyWalking

/-- The settings that are made into regular expressions. -/
structure IgnoreConfig where
  agentIgnoreSuffix : String
  agentTraceIgnorePath : String
  pluginHttpIgnoreMethod : String
  pluginGrpcIgnoredMethods : String
  deriving DecidableEq, Repr

/-- `reesc.sub(r'\\\1', text)`. -/
def escapeRegex (text : List Char) : List Char :=
  text.flatMap fun c =>
    if c ∈ ['.', '*', '+', '?', '^', '=', '!', ':', '$', '{', '}', '(', ')', '|', '[', ']', '\\'] then
      ['\\', c]
    else [c]

/-- No character is known by a name. -/
def noNames : List Char → Option Char := fun _ => none

namespace IgnoreConfig

def suffix (config : IgnoreConfig) : List Char :=
  "^.+(?:".toList ++
    ['|'].intercalate ((Text.split ',' config.agentIgnoreSuffix).map fun s =>
      escapeRegex (Text.strip s.toList)) ++
    ")$".toList

/-- `method` and `grpc_method`, which differ in the list only. -/
def methods (list : String) : List Char :=
  '^' :: ['|'].intercalate ((Text.split ',' list).map fun s => Text.strip s.toList) ++ ['$']

/-- One of the comma-separated patterns of `path`, from the inside to the outside: `?`, `*`, `**` and
`/**/` are replaced. -/
def pathPattern (p0 : List Char) : List Char :=
  "/(?:[^/]*/)*".toList.intercalate ((Text.splitBy "/**/".toList p0).map fun p1 =>
    "(?:(?:[^/]+/)*[^/]+)?".toList.intercalate ((Text.splitBy "**".toList (Text.strip p1)).map fun p2 =>
      "[^/]*".toList.intercalate ((Text.splitBy "*".toList p2).map fun p3 =>
        "[^/]".toList.intercalate ((Text.splitBy "?".toList p3).map escapeRegex))))

def path (config : IgnoreConfig) : List Char :=
  "^(?:".toList ++
    ['|'].intercalate ((Text.split ',' config.agentTraceIgnorePath).map fun p0 =>
      pathPattern p0.toList) ++
    ")$".toList

section Compiled

variable (lookup : List Char → Option Char)

/-- `RE_IGNORE_PATH`. -/
def reIgnorePath (config : IgnoreConfig) : Option Regex :=
  Regex.compile lookup (config.suffix ++ '|' :: config.path)

/-- `RE_HTTP_IGNORE_METHOD`, compiled with `re.IGNORECASE`. -/
def reHttpIgnoreMethod (config : IgnoreConfig) : Option Regex :=
  Regex.compile lookup (methods config.pluginHttpIgnoreMethod)

/-- `RE_GRPC_IGNORED_METHODS`, compiled with `re.IGNORECASE`. -/
def reGrpcIgnoredMethods (config : IgnoreConfig) : Option Regex :=
  Regex.compile lookup (methods config.pluginGrpcIgnoredMethods)

def ignoreHttpMethodCheck (config : IgnoreConfig) (method : String) : Option Bool :=
  (config.reHttpIgnoreMethod lookup).map fun regex => regex.accepts true method.toList

def ignoreGrpcMethodCheck (config : IgnoreConfig) (method : String) : Option Bool :=
  (config.reGrpcIgnoredMethods lookup).map fun regex => regex.accepts true method.toList

/-- `RE_IGNORE_PATH.match(op)`, as `ignore_check` asks it. -/
def ignorePathCheck (config : IgnoreConfig) (op : String) : Option Bool :=
  (config.reIgnorePath lookup).map fun regex => regex.accepts false op.toList

end Compiled

end IgnoreConfig

namespace Ant

/-- What a pattern is made of. -/
inductive Token where
  /-- `/**/` -/
  | directories
  /-- `**` -/
  | path
  /-- `*` -/
  | segment
  /-- `?` -/
  | single
  | literal (c : Char)
  deriving DecidableEq, Repr

/-- The longest token that starts here, then the rest. -/
def tokens : List Char → List Token
  | [] => []
  | '/' :: '*' :: '*' :: '/' :: rest => .directories :: tokens rest
  | '*' :: '*' :: rest => .path :: tokens rest
  | '*' :: rest => .segment :: tokens rest
  | '?' :: rest => .single :: tokens rest
  | c :: rest => .literal c :: tokens rest

/-- The texts that a token stands for. -/
def Token.Matches : Token → List Char → Prop
  | .directories, text => ∃ groups : List (List Char), (∀ group ∈ groups, '/' ∉ group) ∧
      text = '/' :: (groups.map (· ++ ['/'])).flatten
  | .path, text => ∃ segments : List (List Char), (∀ segment ∈ segments, segment ≠ [] ∧ '/' ∉ segment) ∧
      text = ['/'].intercalate segments
  | .segment, text => '/' ∉ text
  | .single, text => ∃ c, c ≠ '/' ∧ text = [c]
  | .literal c, text => text = [c]

/-- The pattern matches the whole text: its tokens match the pieces of the text one by one. -/
def Matches (pattern text : List Char) : Prop :=
  ∃ pieces : List (List Char), List.Forall₂ Token.Matches (tokens pattern) pieces ∧
    text = pieces.flatten

end Ant

end SkyWalking
