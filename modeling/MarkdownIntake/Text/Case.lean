import MarkdownIntake.Text.CaseTable

/-!
This module contains lower case, upper case and capitalisation of a text in all scripts. A capital
sigma becomes a final sigma at the end of a word.
-/

namespace MarkdownIntake.Text

def caseImage? (shifts : List CaseShift) (expansions : List (Nat × List Nat)) (c : Char) :
    Option (List Char) :=
  match expansions.lookup c.toNat with
  | some codes => some (codes.map Char.ofNat)
  | none =>
    (shifts.find? (·.applies c.toNat)).map fun shift =>
      [Char.ofNat ((c.toNat : Int) + shift.offset).toNat]

def lowerChar (c : Char) : List Char :=
  if c.toNat < 128 then [c.toLower] else (caseImage? lowerShifts lowerExpansions c).getD [c]

def upperChar (c : Char) : List Char :=
  if c.toNat < 128 then [c.toUpper] else (caseImage? upperShifts upperExpansions c).getD [c]

def titleChar (c : Char) : List Char :=
  (caseImage? titleShifts titleExpansions c).getD (upperChar c)

def capitalSigma : Char := 'Σ'

def startsCased (cs : List Char) : Bool :=
  match cs.dropWhile (inRanges caseIgnorableRanges) with
  | [] => false
  | c :: _ => inRanges casedRanges c

def lowerGo (before : List Char) : List Char → List Char → List Char
  | [], out => out.reverse
  | c :: rest, out =>
    let image :=
      if c = capitalSigma then
        -- It becomes a final sigma at the end of a word.
        if startsCased before && !startsCased rest then ['ς'] else ['σ']
      else
        lowerChar c
    lowerGo (c :: before) rest (image.reverse ++ out)

def lower (cs : List Char) : List Char :=
  lowerGo [] cs []

def upper (cs : List Char) : List Char :=
  cs.flatMap upperChar

def capitalize : List Char → List Char
  | [] => []
  | c :: rest => titleChar c ++ lowerGo [c] rest []

end MarkdownIntake.Text
