import MarkdownIntake.Document.Mark
import MarkdownIntake.Markdown.Character

/-!
This module contains the pairing of emphasis and strikethrough markers. Each marker is first a mark
of plain text; markers that find a partner are turned into marks that open and close a container.
-/

namespace MarkdownIntake.Markdown

open MarkdownIntake.Document

structure Delimiter where
  marker : Char
  /-- The number of markers in the run, 0 where the rule of multiples of three does not apply. -/
  runLength : Nat
  index : Nat
  opens : Bool
  closes : Bool
  partner : Option Nat := none
deriving Repr, Inhabited

def flanking (marker before after : Char) : Bool × Bool :=
  let punctBefore := isDelimiting before
  let punctAfter := isDelimiting after
  let whiteBefore := isWhite before
  let whiteAfter := isWhite after
  let left := !(whiteAfter || (punctAfter && !(whiteBefore || punctBefore)))
  let right := !(whiteBefore || (punctBefore && !(whiteAfter || punctAfter)))
  if marker = '_' then
    (left && (!right || punctBefore), right && (!left || punctAfter))
  else
    (left, right)

def lengthsClash (opener closer : Delimiter) : Bool :=
  (opener.closes || closer.opens) && (opener.runLength + closer.runLength) % 3 == 0
    && (opener.runLength % 3 != 0 || closer.runLength % 3 != 0)

/-- What a search without success has to tell apart: marker, whether it opens, length modulo 3. -/
abbrev SearchKey := Char × Bool × Nat

def Delimiter.key (d : Delimiter) : SearchKey :=
  (d.marker, d.opens, d.runLength % 3)

structure Pairing where
  delimiters : Array Delimiter
  /-- For each marker seen, how many markers before it a search passes over. -/
  jumps : Array Nat := #[]
  header : Nat := 0
  /-- The index of the mark of the last marker of the current run; −2 for none. -/
  lastIndex : Int := -2
  /-- For each key, the marker at or before which no opener is left. -/
  bottoms : List (SearchKey × Int) := []

def findOpener? (delimiters : Array Delimiter) (jumps : Array Nat) (closer : Delimiter)
    (bottom : Int) (count : Nat) : Option Nat :=
  match count with
  | 0 => none
  | k + 1 =>
    if (k : Int) ≤ bottom then
      none
    else
      let opener := delimiters[k]?.getD default
      if opener.marker == closer.marker && opener.opens && opener.partner.isNone
          && !lengthsClash opener closer then
        some k
      else
        findOpener? delimiters jumps closer bottom (k - jumps[k]?.getD 0)
termination_by count
decreasing_by omega

def pairStep (s : Pairing) (position : Nat) : Pairing :=
  let closer := s.delimiters[position]?.getD default
  let sameRun := (s.delimiters[s.header]?.getD default).marker == closer.marker
    && s.lastIndex == (closer.index : Int) - 1
  let header := if sameRun then s.header else position
  let s := { s with header, jumps := s.jumps.push 0, lastIndex := closer.index }
  if !closer.closes then
    s
  else
    let bottom := (s.bottoms.lookup closer.key).getD (-1)
    let count := header - s.jumps[header]?.getD 0
    match findOpener? s.delimiters s.jumps closer bottom count with
    | some opener =>
      -- A later search passes over everything between the two, and over what the opener passes over.
      let lastJump :=
        if opener != 0 && !(s.delimiters[opener - 1]?.getD default).opens then
          s.jumps[opener - 1]?.getD 0 + 1
        else
          0
      { s with
        jumps := (s.jumps.setIfInBounds position (position - opener + lastJump)).setIfInBounds
          opener lastJump
        delimiters := (s.delimiters.modify position ({ · with opens := false })).modify opener
          ({ · with partner := some position, closes := false })
        lastIndex := -2 }
    | none => { s with bottoms := (closer.key, (count : Int) - 1) :: s.bottoms }

def pairUp (delimiters : Array Delimiter) : Array Delimiter :=
  ((List.range delimiters.size).foldl pairStep { delimiters }).delimiters

def containerMark (kind tag markup : String) (nesting : Int) : Mark :=
  { kind := kind ++ (if nesting = 1 then "_open" else "_close"), tag, nesting, markup }

def strikePairs (delimiters : Array Delimiter) (marks : Array Mark) : Array Mark × List Nat :=
  delimiters.foldl
    (fun (marks, lone) d =>
      if d.marker != '~' then
        (marks, lone)
      else
        match d.partner.bind (delimiters[·]?) with
        | none => (marks, lone)
        | some closer =>
          let marks := marks.setIfInBounds d.index (containerMark "s" "s" "~~" 1)
          let marks := marks.setIfInBounds closer.index (containerMark "s" "s" "~~" (-1))
          let before := (marks[closer.index - 1]?).getD default
          -- A run of odd length leaves a single marker in front of its pairs.
          if before.kind == "text" && before.content == "~" then
            (marks, (closer.index - 1) :: lone)
          else
            (marks, lone))
    (marks, [])

def afterClosers (marks : Array Mark) : (fuel : Nat) → (start : Nat) → Nat
  | 0, start => start
  | fuel + 1, start =>
    match marks[start]? with
    | some mark =>
      if mark.kind == "s_close" then afterClosers marks fuel (start + 1) else start
    | none => start

def moveLone (marks : Array Mark) (index : Nat) : Array Mark :=
  let last := afterClosers marks marks.size (index + 1) - 1
  if index == last then
    marks
  else
    marks.swapIfInBounds index last

def applyStrikes (delimiters : Array Delimiter) (marks : Array Mark) : Array Mark :=
  let (marks, lone) := strikePairs delimiters marks
  lone.foldl moveLone marks

/-- Whether the pairs of a marker and of the marker before it form a pair of double markers. -/
def isStrongAt (delimiters : Array Delimiter) (position partner : Nat) (d closer : Delimiter) :
    Bool :=
  match delimiters[position - 1]?, delimiters[partner + 1]? with
  | some before, some after =>
    position != 0 && before.partner == some (partner + 1) && before.marker == d.marker
      && before.index + 1 == d.index && after.index == closer.index + 1
  | _, _ => false

/-- Turn paired emphasis markers into containers, the last of the first `count` markers first. -/
def emphasisPairs (delimiters : Array Delimiter) (count : Nat) (marks : Array Mark) : Array Mark :=
  match count with
  | 0 => marks
  | position + 1 =>
    let d := delimiters[position]?.getD default
    match d.partner with
    | none => emphasisPairs delimiters position marks
    | some partner =>
      if d.marker != '*' && d.marker != '_' then
        emphasisPairs delimiters position marks
      else
        let closer := delimiters[partner]?.getD default
        if isStrongAt delimiters position partner d closer then
          let markup := String.ofList [d.marker, d.marker]
          let marks := marks.setIfInBounds d.index (containerMark "strong" "strong" markup 1)
          let marks := marks.setIfInBounds closer.index
            (containerMark "strong" "strong" markup (-1))
          let marks := marks.modify (d.index - 1) ({ · with content := "" })
          let marks := marks.modify (closer.index + 1) ({ · with content := "" })
          emphasisPairs delimiters (position - 1) marks
        else
          let markup := String.ofList [d.marker]
          let marks := marks.setIfInBounds d.index (containerMark "em" "em" markup 1)
          let marks := marks.setIfInBounds closer.index (containerMark "em" "em" markup (-1))
          emphasisPairs delimiters position marks
termination_by count

def joinTexts : List Mark → List Mark
  | [] => []
  | mark :: rest =>
    match joinTexts rest with
    | next :: rest =>
      if mark.kind == "text" && next.kind == "text" then
        { next with content := mark.content ++ next.content } :: rest
      else
        mark :: next :: rest
    | [] => [mark]

def resolveMarkers (delimiters : Array Delimiter) (marks : Array Mark) : List Mark :=
  let paired := pairUp delimiters
  joinTexts (emphasisPairs paired paired.size (applyStrikes paired marks)).toList

end MarkdownIntake.Markdown
