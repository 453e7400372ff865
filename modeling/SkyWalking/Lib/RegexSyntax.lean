import SkyWalking.Lib.Regex

/-!
# The syntax of regular expressions

`re.compile` of Python 3.11 on ASCII texts, read character by character. What is read further on than one
character, such as a repetition in braces that turns out to be none, is settled when the next character does
not continue it. `lookup` finds a character by its Unicode name.
-/

namespace Regex

/-- The lengths of what an expression reads. `hi` is `none` where there is no bound. -/
structure Width where
  lo : Nat
  hi : Option Nat
  deriving DecidableEq, Repr

/-- `groups` has the widths of the groups that are closed. -/
def width (groups : List (Option Width)) : Regex → Width
  | .empty | .bol | .eol | .textStart | .textEnd | .boundary _ | .ahead _ _ | .behind _ _ _ =>
      ⟨0, some 0⟩
  | .char _ | .any | .oneOf _ _ => ⟨1, some 1⟩
  | .seq first second =>
      let left := width groups first
      let right := width groups second
      ⟨left.lo + right.lo, left.hi.bind fun n => right.hi.map (n + ·)⟩
  | .alt first second | .conditional _ first second =>
      let left := width groups first
      let right := width groups second
      ⟨min left.lo right.lo, left.hi.bind fun n => right.hi.map (max n ·)⟩
  | .repeated _ least most body =>
      let one := width groups body
      ⟨one.lo * least,
        if one.hi = some 0 ∨ most = some 0 then some 0 else one.hi.bind fun n => most.map (n * ·)⟩
  | .capture _ body | .atomic body | .scoped _ _ body => width groups body
  | .reference group => ((groups[group - 1]?).bind id).getD ⟨0, some 0⟩

/-- A quantifier may follow: not on an anchor, and not on another quantifier. -/
def repeatable : Regex → Bool
  | .bol | .eol | .textStart | .textEnd | .boundary _ | .repeated _ _ _ _ => false
  | _ => true

/-- What an open parenthesis has opened. -/
inductive GroupKind where
  | plain
  | capture (group : Nat)
  | atomic
  | ahead (negated : Bool)
  /-- `outer` is the bound on groups that held before it -/
  | behind (negated : Bool) (outer : Option Nat)
  | conditional (group : Nat)
  | scoped (on off : List Flag)
  deriving DecidableEq, Repr

/-- An open group: the alternatives that are complete, and the items of the current one. -/
structure Frame where
  kind : GroupKind
  verbose : Bool
  branches : List Regex
  items : List Regex
  deriving DecidableEq, Repr

namespace Frame

def new (kind : GroupKind) (verbose : Bool) : Frame := ⟨kind, verbose, [], []⟩

def push (frame : Frame) (items : List Regex) : Frame :=
  { frame with items := frame.items ++ items }

def nextBranch (frame : Frame) : Frame :=
  { frame with
    branches := frame.branches ++ [seqAll frame.items]
    items := [] }

/-- A conditional group has two branches at most. -/
def isFull (frame : Frame) : Bool :=
  match frame.kind, frame.branches with
  | .conditional _, _ :: _ => true
  | _, _ => false

def body (frame : Frame) : Regex := altAll (frame.branches ++ [seqAll frame.items])

/-- The last item gets a quantifier. -/
def quantify (frame : Frame) (least : Nat) (most : Option Nat) : Option Frame :=
  match frame.items.getLast? with
  | none => none
  | some item =>
      if item.repeatable then
        some { frame with items := frame.items.dropLast ++ [.repeated .greedy least most item] }
      else none

/-- The quantifier of the last item becomes a lazy or a possessive one. -/
def requantify (frame : Frame) (quantifier : Quantifier) : Option Frame :=
  match frame.items.getLast? with
  | some (.repeated .greedy least most item) =>
      some { frame with items := frame.items.dropLast ++ [.repeated quantifier least most item] }
  | _ => none

end Frame

/-- What has been read of a set. `low` may be the first of a range; `dash` says that a hyphen followed. -/
structure SetFrame where
  negated : Bool
  items : List SetItem
  low : Option SetItem
  dash : Bool
  deriving DecidableEq, Repr

/-- What has been read of the item that is not complete yet. Inside a set, escapes keep it. -/
inductive Mode where
  | normal
  /-- a backslash -/
  | escape (set : Option SetFrame)
  /-- `\x`, `\u` or `\U`, with the number of digits that are left -/
  | hex (set : Option SetFrame) (left value : Nat)
  /-- `\N`, then the name in braces -/
  | charName (set : Option SetFrame) (name : Option (List Char))
  | octal (set : Option SetFrame) (left value : Nat)
  /-- a backslash and digits that do not begin with zero -/
  | reference (digits : List Char)
  /-- an opening bracket -/
  | setStart
  | set (set : SetFrame)
  /-- an opening brace, and digits before and behind a comma -/
  | braces (lo : List Char) (hi : Option (List Char))
  /-- an opening parenthesis -/
  | open
  /-- `(?` -/
  | extension
  /-- `(?P` -/
  | python
  | groupName (name : List Char)
  | nameReference (name : List Char)
  /-- `(?(` -/
  | condition (name : List Char)
  /-- `(?<` -/
  | behind
  /-- `(?#` -/
  | comment (escaped : Bool)
  | lineComment (escaped : Bool)
  | flagsOn (on : List Flag)
  | flagsOff (on off : List Flag)
  deriving DecidableEq, Repr

/-- The state of the parser: `stack` holds the groups around the current one, innermost first, `groups` the
widths of the capturing ones, which are not known while they are open. In a lookbehind only the first
`lookbehind` groups may be referred to. `conditions` are the group numbers that have to exist in the end, and
`quantified` says that a quantifier was read last. -/
structure State where
  mode : Mode
  frame : Frame
  stack : List Frame
  groups : List (Option Width)
  names : List (List Char × Nat)
  lookbehind : Option Nat
  conditions : List Nat
  flags : List Flag
  quantified : Bool
  deriving DecidableEq, Repr

namespace State

def init : State :=
  { mode := .normal
    frame := .new .plain false
    stack := []
    groups := []
    names := []
    lookbehind := none
    conditions := []
    flags := []
    quantified := false }

def withMode (state : State) (mode : Mode) : State := { state with mode := mode }

/-- Complete items are added. -/
def push (state : State) (items : List Regex) (quantified : Bool) : State :=
  { state with
    mode := .normal
    frame := state.frame.push items
    quantified := quantified }

def add (state : State) (item : Regex) : State := state.push [item] false

def enter (state : State) (kind : GroupKind) (verbose : Bool) : State :=
  { state with
    mode := .normal
    frame := .new kind verbose
    stack := state.frame :: state.stack
    quantified := false }

def enterGroup (state : State) (kind : GroupKind) : State := state.enter kind state.frame.verbose

def enterCapture (state : State) (name : Option (List Char)) : State :=
  let group := state.groups.length + 1
  { state with
    groups := state.groups ++ [none]
    names := (name.map fun text => (text, group)).toList ++ state.names }.enterGroup (.capture group)

def isClosed (state : State) (group : Nat) : Bool := ((state.groups[group - 1]?).bind id).isSome

def mayReferBehind (state : State) (group : Nat) : Bool :=
  state.lookbehind.all fun bound => state.isClosed group && group ≤ bound

end State

/-- The expression for a code point; the text of a lone surrogate does not exist. -/
def literal (code : Nat) : Regex :=
  if code.isValidChar then .char (Char.ofNat code) else .oneOf false [.range code code]

namespace SetFrame

def new (negated : Bool) : SetFrame := ⟨negated, [], none, false⟩

def add (set : SetFrame) (item : SetItem) : Option SetFrame :=
  match set.low, set.dash, item with
  | none, _, _ => some { set with low := some item }
  | some low, false, _ => some { set with items := set.items ++ [low], low := some item }
  | some (.range lo _), true, .range hi _ =>
      if lo ≤ hi then
        some { set with items := set.items ++ [.range lo hi], low := none, dash := false }
      else none
  | some _, true, _ => none

/-- A hyphen at the end stands for itself, and a set of one character is that character. -/
def close (set : SetFrame) : Regex :=
  let hyphen : List SetItem := if set.dash then [.range '-'.toNat '-'.toNat] else []
  let items := (set.items ++ set.low.toList ++ hyphen).dedup
  match set.negated, items with
  | false, [.range lo hi] => if lo = hi then literal lo else .oneOf false items
  | negated, _ => .oneOf negated items

end SetFrame

/-- A code point has been read, in a set or outside. -/
def State.deliver (state : State) (set : Option SetFrame) (code : Nat) : Option State :=
  match set with
  | none => some (state.add (literal code))
  | some set => (set.add (.range code code)).map fun set => state.withMode (.set set)

def stepSet (state : State) (set : SetFrame) (c : Char) : Option State :=
  if c = '\\' then some (state.withMode (.escape (some set)))
  else if c = ']' ∧ (set.items ≠ [] ∨ set.low.isSome) then some (state.add set.close)
  else if c = '-' ∧ set.low.isSome ∧ ¬ set.dash then
    some (state.withMode (.set { set with dash := true }))
  else (set.add (.range c.toNat c.toNat)).map fun set => state.withMode (.set set)

/-- The escapes for classes of characters. -/
def class? : Char → Option SetItem
  | 'd' => some (.category .digit false)
  | 'D' => some (.category .digit true)
  | 's' => some (.category .space false)
  | 'S' => some (.category .space true)
  | 'w' => some (.category .word false)
  | 'W' => some (.category .word true)
  | _ => none

/-- The escapes for places. -/
def place? : Char → Option Regex
  | 'A' => some .textStart
  | 'b' => some (.boundary false)
  | 'B' => some (.boundary true)
  | 'Z' => some .textEnd
  | _ => none

/-- The escapes for control characters. -/
def control? : Char → Option Nat
  | 'a' => some 7
  | 'b' => some 8
  | 'f' => some 12
  | 'n' => some 10
  | 'r' => some 13
  | 't' => some 9
  | 'v' => some 11
  | _ => none

def octal? (c : Char) : Option Nat := if '0' ≤ c ∧ c ≤ '7' then some (c.toNat - '0'.toNat) else none

def hex? (c : Char) : Option Nat :=
  if c.isDigit then some (c.toNat - '0'.toNat)
  else if 'a' ≤ c ∧ c ≤ 'f' then some (c.toNat - 'a'.toNat + 10)
  else if 'A' ≤ c ∧ c ≤ 'F' then some (c.toNat - 'A'.toNat + 10)
  else none

/-- The character behind a backslash that is neither a class nor a place there. -/
def stepCode (state : State) (set : Option SetFrame) (c : Char) : Option State :=
  match control? c with
  | some code => state.deliver set code
  | none =>
      if c = 'x' then some (state.withMode (.hex set 2 0))
      else if c = 'u' then some (state.withMode (.hex set 4 0))
      else if c = 'U' then some (state.withMode (.hex set 8 0))
      else if c = 'N' then some (state.withMode (.charName set none))
      else if c.isDigit then
        match set, octal? c with
        | none, some 0 => some (state.withMode (.octal none 2 0))
        | none, _ => some (state.withMode (.reference [c]))
        | some set, some value => some (state.withMode (.octal (some set) 2 value))
        | some _, none => none
      else if c.isAlpha then none
      else state.deliver set c.toNat

def stepEscape (state : State) (set : Option SetFrame) (c : Char) : Option State :=
  match set with
  | none =>
      match place? c, class? c with
      | some place, _ => some (state.add place)
      | none, some item => some (state.add (.oneOf false [item]))
      | none, none => stepCode state none c
  | some frame =>
      match class? c with
      | some item => (frame.add item).map fun set => state.withMode (.set set)
      | none => stepCode state (some frame) c

def decimal (digits : List Char) : Nat :=
  digits.foldl (fun n d => 10 * n + (d.toNat - '0'.toNat)) 0

/-- What nothing closes is complete. -/
def State.settle (state : State) : Option State :=
  match state.mode with
  | .octal set _ value => if value ≤ 255 then state.deliver set value else none
  | .reference digits =>
      let group := decimal digits
      if state.isClosed group ∧ state.mayReferBehind group then some (state.add (.reference group))
      else none
  | .braces lo hi =>
      let text := '{' :: (lo ++ (hi.map fun digits => ',' :: digits).getD [])
      some (state.push (text.map .char) false)
  | _ => some state

/-- `MAXREPEAT`. -/
def maxRepeat : Nat := 4294967295

def State.quantify (state : State) (least : Nat) (most : Option Nat) : Option State :=
  (state.frame.quantify least most).map fun frame =>
    { state with
      mode := .normal
      frame := frame
      quantified := true }

/-- A character that is a quantifier itself, or changes the one that it follows. -/
def State.modify (state : State) (quantifier : Quantifier) (least : Nat) (most : Option Nat) :
    Option State :=
  match state.quantified, state.frame.requantify quantifier with
  | true, some frame =>
      some { state with
        mode := .normal
        frame := frame
        quantified := false }
  | _, _ => state.quantify least most

def State.nextBranch (state : State) : Option State :=
  if state.frame.isFull then none
  else
    some { state with
      mode := .normal
      frame := state.frame.nextBranch
      quantified := false }

/-- A group is complete. A lookbehind has to have a fixed width. -/
def State.close (state : State) : Option State :=
  match state.stack with
  | [] => none
  | outer :: stack =>
      let body := state.frame.body
      let width := body.width state.groups
      let state' := { state with
        frame := outer
        stack := stack }
      match state.frame.kind with
      | .plain => some (state'.add body)
      | .capture group =>
          some ({ state' with groups := state.groups.set (group - 1) (some width) }.add (.capture group body))
      | .atomic => some (state'.add (.atomic body))
      | .ahead negated => some (state'.add (.ahead negated body))
      | .behind negated bound =>
          if width.hi = some width.lo ∧ width.lo ≤ maxRepeat then
            some ({ state' with lookbehind := bound }.add (.behind negated width.lo body))
          else none
      | .conditional group =>
          match state.frame.branches with
          | [] => some (state'.add (.conditional group body .empty))
          | yes :: _ => some (state'.add (.conditional group yes (seqAll state.frame.items)))
      | .scoped on off => some (state'.add (.scoped on off body))

/-- `WHITESPACE`. -/
def whitespace : List Char := [' ', '\t', '\n', '\r', '\x0b', '\x0c']

/-- A character between items. -/
def stepNormal (state : State) (c : Char) : Option State :=
  if state.frame.verbose ∧ c ∈ whitespace then some { state with quantified := false }
  else if state.frame.verbose ∧ c = '#' then some (state.withMode (.lineComment false))
  else if c = '\\' then some (state.withMode (.escape none))
  else if c = '(' then some (state.withMode .open)
  else if c = '[' then some (state.withMode .setStart)
  else if c = '{' then some (state.withMode (.braces [] none))
  else if c = ')' then state.close
  else if c = '|' then state.nextBranch
  else if c = '*' then state.quantify 0 none
  else if c = '+' then state.modify .possessive 1 none
  else if c = '?' then state.modify .lazy 0 (some 1)
  else if c = '.' then some (state.add .any)
  else if c = '^' then some (state.add .bol)
  else if c = '$' then some (state.add .eol)
  else some (state.add (.char c))

/-- A character that does not continue what was read before. -/
def stepSettled (state : State) (c : Char) : Option State :=
  state.settle.bind fun settled =>
    match settled.mode with
    | .set set => stepSet settled set c
    | _ => stepNormal settled c

def stepBraces (state : State) (lo : List Char) (hi : Option (List Char)) (c : Char) : Option State :=
  if c.isDigit then
    match hi with
    | none => some (state.withMode (.braces (lo ++ [c]) none))
    | some digits => some (state.withMode (.braces lo (some (digits ++ [c]))))
  else if c = ',' ∧ hi = none then some (state.withMode (.braces lo (some [])))
  else if c = '}' ∧ (lo ≠ [] ∨ hi ≠ none) then
    let least := decimal lo
    let digits := hi.getD lo
    let most := if digits = [] then none else some (decimal digits)
    if least < maxRepeat ∧ most.all (fun n => n < maxRepeat ∧ least ≤ n) then state.quantify least most
    else none
  else stepSettled state c

/-- `FLAGS`, but for those of bytes and the one without a meaning. -/
def flag? : Char → Option Flag
  | 'i' => some .ignoreCase
  | 'm' => some .multiline
  | 's' => some .dotAll
  | 'x' => some .verbose
  | 'a' => some .ascii
  | 'u' => some .unicode
  | _ => none

def addFlag (on : List Flag) (flag : Flag) : Option (List Flag) :=
  if flag = .ascii ∧ .unicode ∈ on ∨ flag = .unicode ∧ .ascii ∈ on then none else some (on ++ [flag])

/-- Flags for the whole expression stand at its beginning. -/
def State.setFlags (state : State) (on : List Flag) : Option State :=
  if state.stack = [] ∧ state.frame.branches = [] ∧ state.frame.items = [] then
    (on.foldlM addFlag state.flags).map fun flags =>
      { state with
        mode := .normal
        frame := { state.frame with verbose := decide (.verbose ∈ flags) }
        flags := flags
        quantified := false }
  else none

def State.enterScoped (state : State) (on off : List Flag) : Option State :=
  if on.all (· ∉ off) then
    let verbose := (state.frame.verbose || .verbose ∈ on) && .verbose ∉ off
    some (state.enter (.scoped on off) verbose)
  else none

def State.enterBehind (state : State) (negated : Bool) : State :=
  { state with lookbehind := some (state.lookbehind.getD state.groups.length) }.enterGroup
    (.behind negated state.lookbehind)

/-- `str.isidentifier`. -/
def isIdentifier : List Char → Bool
  | [] => false
  | c :: rest => (c.isAlpha || c = '_') && rest.all fun d => d.isAlphanum || d = '_'

/-- The group of a condition is a name, or what `int` reads. -/
def State.enterConditional (state : State) (name : List Char) : Option State :=
  if isIdentifier name then
    (state.names.lookup name).bind fun group =>
      if state.mayReferBehind group then some (state.enterGroup (.conditional group)) else none
  else
    (Text.int? (String.ofList name)).bind fun number =>
      let group := number.toNat
      if 0 < number ∧ state.mayReferBehind group then
        some ({ state with conditions := group :: state.conditions }.enterGroup (.conditional group))
      else none

def stepExtension (state : State) (c : Char) : Option State :=
  if c = 'P' then some (state.withMode .python)
  else if c = ':' then some (state.enterGroup .plain)
  else if c = '#' then some (state.withMode (.comment false))
  else if c = '=' then some (state.enterGroup (.ahead false))
  else if c = '!' then some (state.enterGroup (.ahead true))
  else if c = '<' then some (state.withMode .behind)
  else if c = '(' then some (state.withMode (.condition []))
  else if c = '>' then some (state.enterGroup .atomic)
  else if c = '-' then some (state.withMode (.flagsOff [] []))
  else (flag? c).map fun flag => state.withMode (.flagsOn [flag])

/-- A comment ends with `last`, unless that is behind a backslash. -/
def stepComment (state : State) (mode : Bool → Mode) (last : Char) (escaped : Bool) (c : Char) : State :=
  if escaped then state.withMode (mode false)
  else if c = '\\' then state.withMode (mode true)
  else if c = last then
    { state with
      mode := .normal
      quantified := false }
  else state

variable (lookup : List Char → Option Char)

def step (state : State) (c : Char) : Option State :=
  match state.mode with
  | .normal => stepNormal state c
  | .escape set => stepEscape state set c
  | .hex set left value =>
      (hex? c).bind fun digit =>
        let value := 16 * value + digit
        if 1 < left then some (state.withMode (.hex set (left - 1) value))
        else if value ≤ 0x10ffff then state.deliver set value
        else none
  | .charName set none => if c = '{' then some (state.withMode (.charName set (some []))) else none
  | .charName set (some name) =>
      if c = '}' then (lookup name).bind fun found => state.deliver set found.toNat
      else some (state.withMode (.charName set (some (name ++ [c]))))
  | .octal set left value =>
      match left, octal? c with
      | left + 1, some digit => some (state.withMode (.octal set left (8 * value + digit)))
      | _, _ => stepSettled state c
  | .reference [d] =>
      if c.isDigit then some (state.withMode (.reference [d, c])) else stepSettled state c
  | .reference digits =>
      -- three octal digits are a code point
      match (digits ++ [c]).mapM octal? with
      | some [d, e, f] =>
          let code := 64 * d + 8 * e + f
          if code ≤ 255 then state.deliver none code else none
      | _ => stepSettled state c
  | .setStart =>
      if c = '^' then some (state.withMode (.set (.new true))) else stepSet state (.new false) c
  | .set set => stepSet state set c
  | .braces lo hi => stepBraces state lo hi c
  | .open => if c = '?' then some (state.withMode .extension) else stepNormal (state.enterCapture none) c
  | .extension => stepExtension state c
  | .python =>
      if c = '<' then some (state.withMode (.groupName []))
      else if c = '=' then some (state.withMode (.nameReference []))
      else none
  | .groupName name =>
      if c = '>' then
        if isIdentifier name ∧ state.names.lookup name = none then some (state.enterCapture (some name))
        else none
      else some (state.withMode (.groupName (name ++ [c])))
  | .nameReference name =>
      if c = ')' then
        (state.names.lookup name).bind fun group =>
          if state.isClosed group ∧ state.mayReferBehind group then some (state.add (.reference group))
          else none
      else some (state.withMode (.nameReference (name ++ [c])))
  | .condition name =>
      if c = ')' then state.enterConditional name
      else some (state.withMode (.condition (name ++ [c])))
  | .behind =>
      if c = '=' then some (state.enterBehind false)
      else if c = '!' then some (state.enterBehind true)
      else none
  | .comment escaped => some (stepComment state .comment ')' escaped c)
  | .lineComment escaped => some (stepComment state .lineComment '\n' escaped c)
  | .flagsOn on =>
      if c = ')' then state.setFlags on
      else if c = ':' then state.enterScoped on []
      else if c = '-' then some (state.withMode (.flagsOff on []))
      else
        (flag? c).bind fun flag =>
          (addFlag on flag).map fun on => state.withMode (.flagsOn on)
  | .flagsOff on off =>
      if c = ':' ∧ off ≠ [] then state.enterScoped on off
      else
        (flag? c).bind fun flag =>
          if flag = .ascii ∨ flag = .unicode then none
          else some (state.withMode (.flagsOff on (off ++ [flag])))

/-- The end of the text; a comment to the end of the line ends there too. -/
def State.finish (state : State) : Option Regex :=
  let closed := if state.mode = .lineComment false then some (state.withMode .normal) else state.settle
  closed.bind fun state =>
    if state.mode = .normal ∧ state.stack = [] ∧ state.conditions.all (· ≤ state.groups.length) then
      some (if state.flags = [] then state.frame.body else .scoped state.flags [] state.frame.body)
    else none

/-- `re.compile`: `none` where it raises. -/
def compile (text : List Char) : Option Regex := (text.foldlM (step lookup) .init).bind State.finish

end Regex
