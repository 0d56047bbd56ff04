import MarkdownIntake.Yaml.Spot

/-!
This module contains the texts of single values: plain ones, those in single or double quotes and
those in blocks of lines. Inside all but the blocks that keep their lines, a single line end is read
as a space.
-/

namespace MarkdownIntake.Yaml

/-- The text between two lines: a space, but of several line ends all but the first one. -/
def fold (lineEnd : Char) (others : List Char) : List Char :=
  if lineEnd ≠ '\n' then lineEnd :: others
  else if others.isEmpty then [' ']
  else others

namespace Spots

/--
Pass over line ends and characters of a class: the line ends, and the rest. There is no rest if a
line starts with the marker of a document.
-/
def lineEnds? (inClass : Char → Bool) : Spots → Option (List Char × Spots)
  | [] => some ([], [])
  | spot :: rest =>
    if spot.column = 0 && startsWithMarker (spot :: rest) then none
    else if isBreak spot.char then
      (lineEnds? inClass rest).map fun (ends, rest) => (lineEnd spot.char :: ends, rest)
    else if inClass spot.char then lineEnds? inClass rest
    else some ([], spot :: rest)

/-! ### Plain texts -/

def endsPlain (inBrackets : Bool) (spot : Spot) (rest : Spots) : Bool :=
  isSeparator spot.char
    || (spot.char = ':' && endsOr rest fun c => isSeparator c || (inBrackets && isBracketSign c))
    || (inBrackets && (isBracketSign spot.char || spot.char = '?'))

def plainWord (inBrackets : Bool) : Spots → List Char × Spots
  | [] => ([], [])
  | spot :: rest =>
    if endsPlain inBrackets spot rest then
      ([], spot :: rest)
    else
      let (word, rest) := plainWord inBrackets rest
      (spot.char :: word, rest)

def plainGap? (spots : Spots) : Option (List Char × Spots) :=
  let (spaces, rest) := span (· = ' ') spots
  match rest with
  | [] => some (spaces, rest)
  | spot :: after =>
    if isBreak spot.char then
      (lineEnds? (· = ' ') after).map fun (ends, rest) => (fold (lineEnd spot.char) ends, rest)
    else
      some (spaces, rest)

/--
A plain text, and the rest. Outside brackets its lines start at column `indent` or further right.
`fuel` is a bound on the number of words.
-/
def plain (inBrackets : Bool) (indent : Nat) : (fuel : Nat) → Spots → List Char × Spots
  | 0, spots => ([], spots)
  | fuel + 1, spots =>
    let (word, rest) := plainWord inBrackets spots
    match plainGap? rest with
    | some (gap, spot :: next) =>
      if gap.isEmpty || spot.char = '#' || (!inBrackets && spot.column < indent)
          || endsPlain inBrackets spot next then
        (word, rest)
      else
        let (words, rest) := plain inBrackets indent fuel (spot :: next)
        (word ++ gap ++ words, rest)
    | _ => (word, rest)

/-! ### Texts in quotes -/

def quotedGap? (spots : Spots) : Option (List Char × Spots) :=
  let (blanks, rest) := span isBlank spots
  match rest with
  | [] => none
  | spot :: after =>
    if isBreak spot.char then
      (lineEnds? isBlank after).map fun (ends, rest) => (fold (lineEnd spot.char) ends, rest)
    else
      some (blanks, rest)

def singleQuoted? : (fuel : Nat) → Spots → Option (List Char × Spots)
  | 0, _ | _, [] => none
  | fuel + 1, spot :: rest =>
    if spot.char = '\'' then
      match rest with
      | second :: rest' =>
        if second.char = '\'' then
          (singleQuoted? fuel rest').map fun (text, rest) => ('\'' :: text, rest)
        else
          some ([], rest)
      | [] => some ([], [])
    else if isSeparator spot.char then do
      let (gap, rest) ← quotedGap? (spot :: rest)
      let (text, rest) ← singleQuoted? fuel rest
      return (gap ++ text, rest)
    else
      (singleQuoted? fuel rest).map fun (text, rest) => (spot.char :: text, rest)

def escaped? (letter : Char) : Option Char :=
  match letter with
  | '0' => some '\x00'
  | 'a' => some '\x07'
  | 'b' => some '\x08'
  | 't' | '\t' => some '\t'
  | 'n' => some '\n'
  | 'v' => some '\x0b'
  | 'f' => some '\x0c'
  | 'r' => some '\r'
  | 'e' => some '\x1b'
  | ' ' => some ' '
  | '"' => some '"'
  | '\\' => some '\\'
  | '/' => some '/'
  | 'N' => some '\u0085'
  | '_' => some '\u00a0'
  | 'L' => some '\u2028'
  | 'P' => some '\u2029'
  | _ => none

def codeLength? (letter : Char) : Option Nat :=
  match letter with
  | 'x' => some 2
  | 'u' => some 4
  | 'U' => some 8
  | _ => none

def hexDigit? (c : Char) : Option Nat :=
  if c.isDigit then some (c.toNat - 48)
  else if 'a' ≤ c && c ≤ 'f' then some (c.toNat - 87)
  else if 'A' ≤ c && c ≤ 'F' then some (c.toNat - 55)
  else none

def hexNumber? (value : Nat) : (count : Nat) → Spots → Option (Nat × Spots)
  | 0, spots => some (value, spots)
  | _ + 1, [] => none
  | count + 1, spot :: rest => do
    hexNumber? (value * 16 + (← hexDigit? spot.char)) count rest

/-- The codes that are looked up among the characters at all are below this. -/
def codeBound : Nat := 1 <<< 31

/-- What an escape stands for, which is nothing if its code is not below the bound, and the rest. -/
def escape? (spots : Spots) : Option (Option (List Char) × Spots) :=
  match spots with
  | [] => none
  | spot :: rest =>
    match escaped? spot.char, codeLength? spot.char with
    | some c, _ => some (some [c], rest)
    | none, some count => do
      let (code, rest) ← hexNumber? 0 count rest
      if codeBound ≤ code then some (none, rest)
      else if code.isValidChar then some (some [Char.ofNat code], rest)
      else none
    | none, none =>
      if isBreak spot.char then (lineEnds? isBlank rest).map fun (ends, rest) => (some ends, rest)
      else none

/--
A text in double quotes, after the first quote, and the rest. There is no text as soon as a code is
not below the bound. `fuel` bounds the length.
-/
def doubleQuoted? : (fuel : Nat) → Spots → Option (Option (List Char) × Spots)
  | 0, _ | _, [] => none
  | fuel + 1, spot :: rest =>
    if spot.char = '"' then
      some (some [], rest)
    else do
      let (part?, rest) ←
        if spot.char = '\\' then escape? rest
        else if isSeparator spot.char then
          (quotedGap? (spot :: rest)).map fun (gap, rest) => (some gap, rest)
        else some (some [spot.char], rest)
      match part? with
      | none => return (none, rest)
      | some part =>
        let (text?, rest) ← doubleQuoted? fuel rest
        return (text?.map (part ++ ·), rest)

/-! ### Texts in blocks of lines -/

structure BlockStyle where
  isFolded : Bool
  /-- Whether the line ends after the last line are kept, all or none; otherwise one is. -/
  keepsEnds? : Option Bool := none
  indent? : Option Nat := none

def readEndSign (style : BlockStyle) : Spots → BlockStyle × Spots
  | [] => (style, [])
  | spot :: rest =>
    if spot.char = '+' then ({ style with keepsEnds? := some true }, rest)
    else if spot.char = '-' then ({ style with keepsEnds? := some false }, rest)
    else (style, spot :: rest)

def readIndentSign? (style : BlockStyle) : Spots → Option (BlockStyle × Spots)
  | [] => some (style, [])
  | spot :: rest =>
    if spot.char = '0' then none
    else if spot.char.isDigit then some ({ style with indent? := some (spot.char.toNat - 48) }, rest)
    else some (style, spot :: rest)

def blockStyle? (isFolded : Bool) (spots : Spots) : Option (BlockStyle × Spots) := do
  let (style, rest) := readEndSign { isFolded } spots
  let (style, rest) ← readIndentSign? style rest
  let (style, rest) := if style.keepsEnds?.isNone then readEndSign style rest else (style, rest)
  if endsOr rest fun c => c = ' ' || isBreak c then
    return (style, ← skipLine? false rest)
  else
    none

def emptyLines (indent : Nat) : Spots → List Char × Spots
  | [] => ([], [])
  | spot :: rest =>
    if isBreak spot.char then
      let (ends, rest) := emptyLines indent rest
      (lineEnd spot.char :: ends, rest)
    else if spot.char = ' ' && spot.column < indent then
      emptyLines indent rest
    else
      ([], spot :: rest)

/-- Pass over all spaces and line ends: the line ends, the greatest column reached, and the rest. -/
def leadingLines (widest : Nat) : Spots → List Char × Nat × Spots
  | [] => ([], widest, [])
  | spot :: rest =>
    if isBreak spot.char then
      let (ends, widest, rest) := leadingLines widest rest
      (lineEnd spot.char :: ends, widest, rest)
    else if spot.char = ' ' then
      leadingLines (max widest (spot.column + 1)) rest
    else
      ([], widest, spot :: rest)

/-- The lines of a block that have been read: their text, and the line ends after the last one. -/
structure BlockText where
  text : List Char
  lastEnd : List Char
  ends : List Char
  rest : Spots

/--
The lines of a block that start at column `indent`. `ends` are the line ends before the first one,
and `fuel` bounds the number of lines.
-/
def blockLines (isFolded : Bool) (indent : Nat) : (fuel : Nat) → List Char → Spots → BlockText
  | 0, ends, spots => { text := [], lastEnd := [], ends, rest := spots }
  | _, ends, [] => { text := [], lastEnd := [], ends, rest := [] }
  | fuel + 1, ends, spot :: after =>
    if spot.column = indent then
      let (line, rest) := span (fun c => !isBreak c) (spot :: after)
      let lastEnd := (rest.head?.map fun spot => lineEnd spot.char).toList
      let (nextEnds, rest) := emptyLines indent (rest.drop 1)
      match rest with
      | next :: _ =>
        if next.column = indent then
          let isJoined :=
            isFolded && lastEnd = ['\n'] && !isBlank spot.char && !isBlank next.char
          let joint :=
            if !isJoined then lastEnd else if nextEnds.isEmpty then [' '] else []
          let block := blockLines isFolded indent fuel nextEnds rest
          { block with text := ends ++ line ++ joint ++ block.text }
        else
          { text := ends ++ line, lastEnd, ends := nextEnds, rest }
      | [] => { text := ends ++ line, lastEnd, ends := nextEnds, rest }
    else
      { text := [], lastEnd := [], ends, rest := spot :: after }

def block? (isFolded : Bool) (least : Nat) (spots : Spots) : Option (List Char × Spots) := do
  let (style, rest) ← blockStyle? isFolded spots
  let least := max least 1
  let (indent, ends, rest) := match style.indent? with
    | some columns =>
      let indent := least + columns - 1
      let (ends, rest) := emptyLines indent rest
      (indent, ends, rest)
    | none =>
      let (ends, widest, rest) := leadingLines 0 rest
      (max least widest, ends, rest)
  let block := blockLines isFolded indent (rest.length + 1) ends rest
  let tail := match style.keepsEnds? with
    | some true => block.lastEnd ++ block.ends
    | some false => []
    | none => block.lastEnd
  return (block.text ++ tail, block.rest)

end Spots

end MarkdownIntake.Yaml
