import MarkdownIntake.Yaml.Property

/-!
This module contains the division of a YAML text into tokens. The start and the end of a list or a
map by indentation are tokens too. That a token is a key shows only by the colon after it; then the
tokens for the key are put in front of it.
-/

namespace MarkdownIntake.Yaml

structure KeyPlace where
  tokenCount : Nat
  isRequired : Bool
  spot : Spot

def maxKeyLength : Nat := 1024

structure Tokens where
  read : List Token := []
  /-- The columns of the lists and maps by indentation, the innermost one first. -/
  indents : List Nat := []
  mayBeKey : Bool := true
  key? : Option KeyPlace := none
  /-- The possible keys around each pair of brackets, the innermost first. -/
  outerKeys : List (Option KeyPlace) := []

namespace Tokens

def inBrackets (tokens : Tokens) : Bool :=
  !tokens.outerKeys.isEmpty

def push (tokens : Tokens) (token : Token) : Tokens :=
  { tokens with read := token :: tokens.read }

def insert (tokens : Tokens) (count : Nat) (inserted : List Token) : Tokens :=
  let after := tokens.read.length - count
  { tokens with read := tokens.read.take after ++ inserted.reverse ++ tokens.read.drop after }

/-- The column that the lines of the innermost list or map by indentation must exceed, plus one. -/
def least (tokens : Tokens) : Nat :=
  match tokens.indents with
  | [] => 0
  | column :: _ => column + 1

def endBlocks (tokens : Tokens) (bound : Nat) : Tokens :=
  if tokens.inBrackets then
    tokens
  else
    let ended := tokens.indents.takeWhile (bound ≤ ·)
    { tokens with
      read := ended.map (fun _ => .blockEnd) ++ tokens.read
      indents := tokens.indents.drop ended.length }

def startsAt (tokens : Tokens) (column : Nat) : Bool :=
  tokens.least ≤ column

def dropKey? : Option KeyPlace → Option (Option KeyPlace)
  | some key => if key.isRequired then none else some none
  | none => some none

def withoutKey? (tokens : Tokens) : Option Tokens := do
  return { tokens with key? := ← dropKey? tokens.key? }

/-- Whether a possible key is too far from a place: in another line, or too long. -/
def isStale (spot : Spot) (key : KeyPlace) : Bool :=
  key.spot.line ≠ spot.line || maxKeyLength < spot.index - key.spot.index

def withoutStaleKeys? (tokens : Tokens) (spot : Spot) : Option Tokens := do
  let check (key? : Option KeyPlace) : Option (Option KeyPlace) :=
    if key?.any (isStale spot) then dropKey? key? else some key?
  return { tokens with
    key? := ← check tokens.key?, outerKeys := ← tokens.outerKeys.mapM check }

/--
The tokens that can be used before the next one is read, which starts behind this spot. A token that may
yet turn out to be a key has to wait.
-/
def usable (tokens : Tokens) (spot : Spot) : List Token :=
  let waiting := (tokens.key? :: tokens.outerKeys).reduceOption.filter fun key => !isStale spot key
  let count := waiting.foldl (fun count key => min count key.tokenCount) tokens.read.length
  tokens.read.drop (tokens.read.length - count)

def noteKey? (tokens : Tokens) (spot : Spot) : Option Tokens :=
  if tokens.mayBeKey then do
    let tokens ← tokens.withoutKey?
    let isRequired := !tokens.inBrackets && tokens.indents.head? == some spot.column
    return { tokens with key? := some { tokenCount := tokens.read.length, isRequired, spot } }
  else
    some tokens

def keyToken? (tokens : Tokens) (spot : Spot) (token? : Option (Token × Spots)) :
    Option (Tokens × Spots) := do
  let (token, rest) ← token?
  return ({ (← tokens.noteKey? spot) with mayBeKey := false }.push token, rest)

def documentToken? (tokens : Tokens) (token : Token) : Option Tokens := do
  return { (← (tokens.endBlocks 0).withoutKey?) with mayBeKey := false }.push token

def openBracket? (tokens : Tokens) (spot : Spot) (token : Token) : Option Tokens := do
  let tokens ← tokens.noteKey? spot
  return { tokens with
    mayBeKey := true, key? := none, outerKeys := tokens.key? :: tokens.outerKeys }.push token

def closeBracket? (tokens : Tokens) (token : Token) : Option Tokens :=
  match tokens.outerKeys with
  | [] => none
  | key? :: outerKeys => some ({ tokens with mayBeKey := false, key?, outerKeys }.push token)

def startBlock (tokens : Tokens) (column : Nat) (token : Token) : Tokens :=
  if !tokens.inBrackets && tokens.startsAt column then
    { tokens with indents := column :: tokens.indents }.push token
  else
    tokens

def item? (tokens : Tokens) (spot : Spot) : Option Tokens :=
  if tokens.inBrackets || tokens.mayBeKey then do
    let tokens ← (tokens.startBlock spot.column .listStart).withoutKey?
    return { tokens with mayBeKey := true }.push .item
  else
    none

def keyMark? (tokens : Tokens) (spot : Spot) : Option Tokens :=
  if tokens.inBrackets || tokens.mayBeKey then do
    let tokens ← (tokens.startBlock spot.column .mapStart).withoutKey?
    return { tokens with mayBeKey := !tokens.inBrackets }.push .key
  else
    none

def valueMark? (tokens : Tokens) (spot : Spot) : Option Tokens :=
  match tokens.key? with
  | some key =>
    let column := key.spot.column
    let startsMap := !tokens.inBrackets && tokens.startsAt column
    let tokens := tokens.insert key.tokenCount (if startsMap then [.mapStart, .key] else [.key])
    let indents := if startsMap then column :: tokens.indents else tokens.indents
    some ({ tokens with indents, mayBeKey := false, key? := none }.push .value)
  | none =>
    if tokens.inBrackets || tokens.mayBeKey then
      let tokens := tokens.startBlock spot.column .mapStart
      some ({ tokens with mayBeKey := !tokens.inBrackets }.push .value)
    else
      none

def block? (tokens : Tokens) (isFolded : Bool) (rest : Spots) : Option (Tokens × Spots) := do
  let tokens ← tokens.withoutKey?
  let (text, rest) ← Spots.block? isFolded tokens.least rest
  return ({ tokens with mayBeKey := true }.push (.scalar (String.ofList text) false), rest)

def quoted (read : Option (List Char × Spots)) : Option (Token × Spots) :=
  read.map fun (text, rest) => (.scalar (String.ofList text) false, rest)

def reservedSigns : List Char :=
  "-?:,[]\x7b\x7d#&*!|>'\"%@`".toList

def startsPlain (tokens : Tokens) (c : Char) (rest : Spots) : Bool :=
  !(isSeparator c || reservedSigns.contains c)
    || (!Spots.endsOr rest isSeparator
      && (c = '-' || (!tokens.inBrackets && (c = '?' || c = ':'))))

/-- Read a text in double quotes. A code in it that is too large ends the tokens that can be used. -/
def doubleQuoted? (tokens : Tokens) (usable : List Token) (spot : Spot) (rest : Spots) :
    Option (Tokens × Spots) :=
  match Spots.doubleQuoted? (rest.length + 1) rest with
  | some (none, _) => (tokens.noteKey? spot).map fun _ => ({ read := .tooLarge :: usable }, [])
  | some (some text, rest) => tokens.keyToken? spot (quoted (some (text, rest)))
  | none => none

def step? (tokens : Tokens) (usable : List Token) (spot : Spot) (rest : Spots) :
    Option (Tokens × Spots) :=
  let c := spot.char
  let spots := spot :: rest
  let fuel := rest.length + 1
  let isMark := tokens.inBrackets || Spots.endsOr rest isSeparator
  let go (tokens? : Option Tokens) : Option (Tokens × Spots) := tokens?.map (·, rest)
  if spot.column = 0 && c = '%' then do
    let (token, rest) ← Spots.directive? rest
    return (← tokens.documentToken? token, rest)
  else if spot.column = 0 && Spots.startsWithThree '-' spots then do
    return (← tokens.documentToken? .documentStart, rest.drop 2)
  else if spot.column = 0 && Spots.startsWithThree '.' spots then do
    return (← tokens.documentToken? .documentEnd, rest.drop 2)
  else if c = '[' then go (tokens.openBracket? spot .openList)
  else if c = '\x7b' then go (tokens.openBracket? spot .openMap)
  else if c = ']' then go (tokens.closeBracket? .closeList)
  else if c = '\x7d' then go (tokens.closeBracket? .closeMap)
  else if c = ',' then
    go (tokens.withoutKey?.map fun tokens => { tokens with mayBeKey := true }.push .comma)
  else if c = '-' && Spots.endsOr rest isSeparator then go (tokens.item? spot)
  else if c = '?' && isMark then go (tokens.keyMark? spot)
  else if c = ':' && isMark then go (tokens.valueMark? spot)
  else if c = '*' then
    tokens.keyToken? spot ((Spots.name? rest).map fun (name, rest) => (.alias name, rest))
  else if c = '&' then
    tokens.keyToken? spot ((Spots.name? rest).map fun (name, rest) => (.anchor name, rest))
  else if c = '!' then tokens.keyToken? spot (Spots.tag? spot rest)
  else if (c = '|' || c = '>') && !tokens.inBrackets then tokens.block? (c = '>') rest
  else if c = '\'' then tokens.keyToken? spot (quoted (Spots.singleQuoted? fuel rest))
  else if c = '"' then tokens.doubleQuoted? usable spot rest
  else if tokens.startsPlain c rest then
    let (text, rest) := Spots.plain tokens.inBrackets tokens.least fuel spots
    tokens.keyToken? spot (some (.scalar (String.ofList text) true, rest))
  else
    none

def finish? (tokens : Tokens) : (fuel : Nat) → Spots → Option (List Token)
  | 0, _ => none
  | fuel + 1, spots =>
    let usable := (spots.head?.map tokens.usable).getD []
    let (hasBreak, spots) := Spots.skipGap false false spots
    let tokens := { tokens with mayBeKey := tokens.mayBeKey || hasBreak && !tokens.inBrackets }
    match spots with
    | [] => do
      let tokens ← (tokens.endBlocks 0).withoutKey?
      return tokens.read.reverse
    | spot :: rest => do
      let tokens ← tokens.withoutStaleKeys? spot
      let (tokens, rest) ← (tokens.endBlocks (spot.column + 1)).step? usable spot rest
      tokens.finish? fuel rest

def ofText? (text : List Char) : Option (List Token) :=
  if text.all isAllowed then
    ({} : Tokens).finish? (text.length + 1) (Spots.ofText text)
  else
    none

end Tokens

end MarkdownIntake.Yaml
