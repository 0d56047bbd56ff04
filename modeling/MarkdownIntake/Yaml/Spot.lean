import MarkdownIntake.Yaml.Character

/-!
This module contains the characters of a text with their places. What a character means depends on
its column, so a text is read as a list of spots.
-/

namespace MarkdownIntake.Yaml

structure Spot where
  char : Char
  index : Nat
  line : Nat
  column : Nat

abbrev Spots := List Spot

namespace Spots

def locate (index line column : Nat) : List Char → Spots
  | [] => []
  | c :: rest =>
    { char := c, index, line, column } ::
      if isBreak c then locate (index + 1) (line + 1) 0 rest
      else locate (index + 1) line (if c.toNat = 0xFEFF then column else column + 1) rest

/-- The places of the characters of a text. A byte order mark in front of it is left out. -/
def ofText : List Char → Spots
  | [] => []
  | c :: rest => if c.toNat = 0xFEFF then locate 1 0 0 rest else locate 0 0 0 (c :: rest)

def chars (spots : Spots) : List Char :=
  spots.map (·.char)

def next (spots : Spots) (inClass : Char → Bool) : Bool :=
  spots.head?.any fun spot => inClass spot.char

def endsOr (spots : Spots) (inClass : Char → Bool) : Bool :=
  spots.head?.all fun spot => inClass spot.char

def span (inClass : Char → Bool) : Spots → List Char × Spots
  | [] => ([], [])
  | spot :: rest =>
    if inClass spot.char then
      let (run, rest) := span inClass rest
      (spot.char :: run, rest)
    else
      ([], spot :: rest)

def startsWithThree (c : Char) (spots : Spots) : Bool :=
  match spots with
  | a :: b :: d :: rest => a.char = c && b.char = c && d.char = c && endsOr rest isSeparator
  | _ => false

def startsWithMarker (spots : Spots) : Bool :=
  startsWithThree '-' spots || startsWithThree '.' spots

/-- Pass over spaces, comments and line ends: whether there was a line end, and the rest. -/
def skipGap (inComment hasBreak : Bool) : Spots → Bool × Spots
  | [] => (hasBreak, [])
  | spot :: rest =>
    if isBreak spot.char then skipGap false true rest
    else if inComment then skipGap true hasBreak rest
    else if spot.char = ' ' then skipGap false hasBreak rest
    else if spot.char = '#' then skipGap true hasBreak rest
    else (hasBreak, spot :: rest)

def skipLine? : (inComment : Bool) → Spots → Option Spots
  | _, [] => some []
  | inComment, spot :: rest =>
    if isBreak spot.char then some rest
    else if inComment then skipLine? true rest
    else if spot.char = ' ' then skipLine? false rest
    else if spot.char = '#' then skipLine? true rest
    else none

end Spots

end MarkdownIntake.Yaml
