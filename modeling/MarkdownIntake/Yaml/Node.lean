import MarkdownIntake.Yaml.Scalar
import MarkdownIntake.Yaml.Token

/-!
This module contains the nodes of a YAML text and how they are put together from its tokens. A node
that is used again under its name stands at every place where it is used.
-/

namespace MarkdownIntake.Yaml

inductive Tag where
  | scalar (kind : Kind)
  | bytes
  | list
  | map
  | set
  /-- A list of maps with one entry each, whose keys may be in any order. -/
  | pairs
  | unknown
deriving Repr, DecidableEq

def standardTag : String := "tag:yaml.org,2002:"

def Tag.ofText (text : String) : Tag :=
  match text.dropPrefix? standardTag with
  | none => .unknown
  | some name =>
    match name.toString with
    | "null" => .scalar .null
    | "bool" => .scalar .bool
    | "int" => .scalar .int
    | "float" => .scalar .real
    | "timestamp" => .scalar .moment
    | "merge" => .scalar .merge
    | "value" => .scalar .value
    | "str" => .scalar .text
    | "binary" => .bytes
    | "seq" => .list
    | "map" => .map
    | "set" => .set
    | "omap" | "pairs" => .pairs
    | _ => .unknown

inductive Node where
  | scalar (tag : Tag) (text : String)
  | list (tag : Tag) (items : List Node)
  | map (tag : Tag) (entries : List (Node × Node))
deriving Repr

namespace Node

def empty : Node :=
  .scalar (.scalar .null) ""

structure State where
  tokens : List Token
  handles : List (String × String)
  /-- The nodes with a name; a list or a map that is still being read stands there without content. -/
  anchors : List (String × Node) := []

abbrev Read := StateT State (Except Error)

namespace Read

def fail : Read α :=
  throw .malformed

/-- The tokens that are left, unless the next one cannot be read. -/
def left : Read (List Token) := do
  match (← get).tokens with
  | .tooLarge :: _ => throw .tooLarge
  | tokens => return tokens

def goOn (tokens : List Token) : Read Unit :=
  modify fun state => { state with tokens }

def next (inClass : Token → Bool) : Read Bool := do
  return (← left).head?.any inClass

def accept (token : Token) : Read Bool := do
  match ← left with
  | [] => return false
  | first :: rest =>
    if first = token then
      goOn rest
      return true
    else
      return false

def expect (token : Token) : Read Unit := do
  unless (← accept token) do fail

def anchor : Read (Option String) := do
  match ← left with
  | .anchor name :: rest =>
    goOn rest
    return some name
  | _ => return none

def tag : Read (Option String) := do
  match ← left with
  | .tag handle? suffix :: rest =>
    goOn rest
    match handle? with
    | none => return some suffix
    | some handle =>
      match (← get).handles.lookup handle with
      | some expansion => return some (expansion ++ suffix)
      | none => fail
  | _ => return none

def properties : Read (Option String × Option String) := do
  match ← anchor with
  | some name => return (some name, ← tag)
  | none =>
    match ← tag with
    | some tag => return (← anchor, some tag)
    | none => return (none, none)

def bind (name? : Option String) (node : Node) : Read Unit := do
  match name? with
  | none => return ()
  | some name => modify fun state => { state with anchors := (name, node) :: state.anchors }

def checkFree (name? : Option String) : Read Unit := do
  match name? with
  | none => return ()
  | some name => if ((← get).anchors.lookup name).isSome then fail

end Read

def tagOr (tag? : Option String) (found : Tag) : Tag :=
  match tag? with
  | none | some "!" => found
  | some text => .ofText text

def ofScalar (tag? : Option String) (text : String) (isPlain : Bool) : Node :=
  let isOpen := isPlain && tag?.isNone || tag? == some "!"
  .scalar (tagOr tag? (.scalar (if isOpen then Kind.ofPlain text else .text))) text

def endsEntry : Token → Bool
  | .key | .value | .blockEnd => true
  | _ => false

def endsItem : Token → Bool
  | .item | .blockEnd => true
  | _ => false

def endsPart : Token → Bool
  | .comma | .closeList | .closeMap => true
  | _ => false

inductive Place where
  | inBrackets
  | inBlock
  /-- In a map by indentation, where a list need not be indented further. -/
  | inMap
deriving DecidableEq

mutual

def read (place : Place) : (fuel : Nat) → Read Node
  | 0 => Read.fail
  | fuel + 1 => do
    match ← Read.left with
    | .alias name :: rest =>
      Read.goOn rest
      match (← get).anchors.lookup name with
      | some node => return node
      | none => Read.fail
    | _ =>
      let (name?, tag?) ← Read.properties
      Read.checkFree name?
      let node ← content place name? tag? fuel
      Read.bind name? node
      return node

def content (place : Place) (name? tag? : Option String) : (fuel : Nat) → Read Node
  | 0 => Read.fail
  | fuel + 1 => do
    match ← Read.left with
    | .scalar text isPlain :: rest =>
      Read.goOn rest
      return ofScalar tag? text isPlain
    | .openList :: rest =>
      Read.goOn rest
      Read.bind name? (.list (tagOr tag? .list) [])
      return .list (tagOr tag? .list) (← bracketItems true fuel)
    | .openMap :: rest =>
      Read.goOn rest
      Read.bind name? (.map (tagOr tag? .map) [])
      return .map (tagOr tag? .map) (← bracketEntries true fuel)
    | tokens =>
      let isBlock := place ≠ .inBrackets
      if place = .inMap && tokens.head? == some .item then
        Read.bind name? (.list (tagOr tag? .list) [])
        return .list (tagOr tag? .list) (← looseItems fuel)
      else if isBlock && tokens.head? == some .listStart then
        Read.goOn (tokens.drop 1)
        Read.bind name? (.list (tagOr tag? .list) [])
        return .list (tagOr tag? .list) (← items fuel)
      else if isBlock && tokens.head? == some .mapStart then
        Read.goOn (tokens.drop 1)
        Read.bind name? (.map (tagOr tag? .map) [])
        return .map (tagOr tag? .map) (← entries fuel)
      else if name?.isSome || tag?.isSome then
        return ofScalar tag? "" tag?.isNone
      else
        Read.fail

def readUnless (isEnd : Token → Bool) (place : Place) : (fuel : Nat) → Read Node
  | 0 => Read.fail
  | fuel + 1 => do
    if ← Read.next isEnd then return empty else read place fuel

def items : (fuel : Nat) → Read (List Node)
  | 0 => Read.fail
  | fuel + 1 => do
    if ← Read.accept .item then
      let item ← readUnless endsItem .inBlock fuel
      return item :: (← items fuel)
    else
      Read.expect .blockEnd
      return []

def looseItems : (fuel : Nat) → Read (List Node)
  | 0 => Read.fail
  | fuel + 1 => do
    if ← Read.accept .item then
      let item ← readUnless (fun token => endsEntry token || endsItem token) .inBlock fuel
      return item :: (← looseItems fuel)
    else
      return []

def entries : (fuel : Nat) → Read (List (Node × Node))
  | 0 => Read.fail
  | fuel + 1 => do
    if ← Read.accept .key then
      let key ← readUnless endsEntry .inMap fuel
      let value ← if ← Read.accept .value then readUnless endsEntry .inMap fuel else pure empty
      return (key, value) :: (← entries fuel)
    else
      Read.expect .blockEnd
      return []

def bracketValue : (fuel : Nat) → Read Node
  | 0 => Read.fail
  | fuel + 1 => do
    if ← Read.accept .value then readUnless endsPart .inBrackets fuel else return empty

/-- Read the items of a list in brackets; an item with a colon is a map of one entry. -/
def bracketItems (isFirst : Bool) : (fuel : Nat) → Read (List Node)
  | 0 => Read.fail
  | fuel + 1 => do
    if ← Read.accept .closeList then
      return []
    else
      unless isFirst do Read.expect .comma
      if ← Read.accept .closeList then
        return []
      else if ← Read.accept .key then
        let key ← readUnless (fun token => token = .value || endsPart token) .inBrackets fuel
        let value ← bracketValue fuel
        return .map .map [(key, value)] :: (← bracketItems false fuel)
      else
        let item ← read .inBrackets fuel
        return item :: (← bracketItems false fuel)

def bracketEntries (isFirst : Bool) : (fuel : Nat) → Read (List (Node × Node))
  | 0 => Read.fail
  | fuel + 1 => do
    if ← Read.accept .closeMap then
      return []
    else
      unless isFirst do Read.expect .comma
      if ← Read.accept .closeMap then
        return []
      else if ← Read.accept .key then
        let key ← readUnless (fun token => token = .value || endsPart token) .inBrackets fuel
        let value ← bracketValue fuel
        return (key, value) :: (← bracketEntries false fuel)
      else
        let key ← read .inBrackets fuel
        return (key, empty) :: (← bracketEntries false fuel)

end

def standardHandles : List (String × String) :=
  [("!", "!"), ("!!", standardTag)]

def directives (hasVersion : Bool) (handles : List (String × String)) :
    List Token → Except Error (List (String × String) × List Token)
  | .version major :: rest =>
    if hasVersion || major ≠ 1 then .error .malformed else directives true handles rest
  | .handle name expansion :: rest =>
    if (handles.lookup name).isSome then .error .malformed
    else directives hasVersion ((name, expansion) :: handles) rest
  | .otherDirective :: rest => directives hasVersion handles rest
  | .tooLarge :: _ => .error .tooLarge
  | rest => .ok (handles, rest)

def isOutsideNodes : Token → Bool
  | .version _ | .handle _ _ | .otherDirective | .documentStart | .documentEnd => true
  | _ => false

def heading (isDeclared : Bool) (tokens : List Token) :
    Except Error (List (String × String) × List Token) := do
  if isDeclared then
    match ← directives false [] tokens with
    | (handles, .documentStart :: rest) => return (handles, rest)
    | _ => .error .malformed
  else
    return ([], tokens)

def document (handles : List (String × String)) (mayBeEmpty : Bool) (tokens : List Token) :
    Except Error (Node × List Token) :=
  if mayBeEmpty && tokens.head?.all isOutsideNodes then
    .ok (empty, tokens)
  else
    ((read .inBlock (4 * tokens.length + 8)).run { tokens, handles }).map
      fun (node, state) => (node, state.tokens)

def finish (tokens : List Token) : Except Error Unit :=
  match tokens.dropWhile (· = .documentEnd) with
  | [] => .ok ()
  | rest => do
    let _ ← directives false [] rest
    .error .malformed

def ofTokens (tokens : List Token) : Except Error (Option Node) := do
  match tokens with
  | [] => return none
  | first :: _ =>
    let isDeclared := isOutsideNodes first && first ≠ .documentEnd
    let (handles, tokens) ← heading isDeclared tokens
    let (node, rest) ← document (handles ++ standardHandles) isDeclared tokens
    finish rest
    return node

end Node

end MarkdownIntake.Yaml
