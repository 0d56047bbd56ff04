import MarkdownIntake.Text.Utf8
import MarkdownIntake.Yaml.ScalarText
import MarkdownIntake.Yaml.Token

/-!
This module contains the tokens that say something about a node, its name and its tag, or about the
whole text, the directives.
-/

namespace MarkdownIntake.Yaml.Spots

open MarkdownIntake.Text

def isWordEnd (c : Char) : Bool :=
  c = ' ' || isBreak c

def isAfterName (c : Char) : Bool :=
  isSeparator c || "?:,]\x7d%@`".toList.contains c

def name? (spots : Spots) : Option (String × Spots) :=
  let (name, rest) := span isNameChar spots
  if !name.isEmpty && endsOr rest isAfterName then some (String.ofList name, rest) else none

/--
A part of a tag, and the rest. `bytes` are the bytes of the escapes that have just been read, the
last one first; together they have to encode characters.
-/
def tagPart? (bytes : List Nat) : (fuel : Nat) → Spots → Option (List Char × Spots)
  | 0, _ => none
  | fuel + 1, spots =>
    match spots with
    | [] => (decodeUtf8? bytes.reverse).map fun cs => (cs, [])
    | spot :: rest =>
      if spot.char = '%' then do
        let (byte, rest) ← hexNumber? 0 2 rest
        tagPart? (byte :: bytes) fuel rest
      else do
        let decoded ← decodeUtf8? bytes.reverse
        if isTagChar spot.char then
          let (part, rest) ← tagPart? [] fuel rest
          return (decoded ++ spot.char :: part, rest)
        else
          return (decoded, spot :: rest)

def tagText? (spots : Spots) : Option (String × Spots) :=
  if next spots fun c => c = '%' || isTagChar c then
    (tagPart? [] (spots.length + 1) spots).map fun (part, rest) => (String.ofList part, rest)
  else
    none

def handle? (spots : Spots) : Option (String × Spots) :=
  match spots with
  | [] => none
  | first :: rest =>
    if first.char ≠ '!' then none
    else if next rest (· = ' ') then some ("!", rest)
    else
      match span isNameChar rest with
      | (name, last :: rest) =>
        if last.char = '!' then some (String.ofList ('!' :: name ++ ['!']), rest) else none
      | (_, []) => none

def hasHandle (spots : Spots) : Bool :=
  (span (fun c => !isWordEnd c) spots).1.contains '!'

def tag? (mark : Spot) (spots : Spots) : Option (Token × Spots) := do
  let (tag, rest) ←
    if next spots (· = '<') then do
      let (suffix, rest) ← tagText? (spots.drop 1)
      if next rest (· = '>') then some (Token.tag none suffix, rest.drop 1) else none
    else if endsOr spots isSeparator then
      some (Token.tag none "!", spots)
    else if hasHandle spots then do
      let (handle, rest) ← handle? (mark :: spots)
      let (suffix, rest) ← tagText? rest
      some (Token.tag (some handle) suffix, rest)
    else do
      let (suffix, rest) ← tagText? spots
      some (Token.tag (some "!") suffix, rest)
  if endsOr rest isWordEnd then some (tag, rest) else none

def version? (spots : Spots) : Option (Token × Spots) :=
  let (major, rest) := span Char.isDigit (span (· = ' ') spots).2
  if !major.isEmpty && next rest (· = '.') then
    let (minor, rest) := span Char.isDigit (rest.drop 1)
    if !minor.isEmpty && endsOr rest isWordEnd then
      some (.version (major.foldl (fun n c => n * 10 + (c.toNat - 48)) 0), rest)
    else
      none
  else
    none

def handleDirective? (spots : Spots) : Option (Token × Spots) := do
  let (handle, rest) ← handle? (span (· = ' ') spots).2
  if next rest (· = ' ') then
    let (expansion, rest) ← tagText? (span (· = ' ') rest).2
    if endsOr rest isWordEnd then some (.handle handle expansion, rest) else none
  else
    none

def directive? (spots : Spots) : Option (Token × Spots) := do
  let (name, rest) := span isNameChar spots
  if name.isEmpty || !endsOr rest isWordEnd then
    none
  else
    let (token, rest) ← match String.ofList name with
      | "YAML" => version? rest
      | "TAG" => handleDirective? rest
      | _ => some (.otherDirective, (span (fun c => !isBreak c) rest).2)
    return (token, ← skipLine? false rest)

end MarkdownIntake.Yaml.Spots
