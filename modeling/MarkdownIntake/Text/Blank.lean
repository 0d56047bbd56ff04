/-!
This module contains the notion of a blank character that the document rules use, and what is
derived from it: trimming, splitting at blanks and counting runs of blanks.
-/

namespace MarkdownIntake.Text

/--
Whether a character is blank: a separator of words, in any script. The separators U+001C to U+001F
and U+0085 are blank, the zero width space U+200B is not.
-/
def isBlank (c : Char) : Bool :=
  let n := c.toNat
  (9 ≤ n && n ≤ 13) || (28 ≤ n && n ≤ 32) || n == 0x85 || n == 0xA0 || n == 0x1680
    || (0x2000 ≤ n && n ≤ 0x200A) || n == 0x2028 || n == 0x2029 || n == 0x202F || n == 0x205F
    || n == 0x3000

def dropRightWhile (p : Char → Bool) (cs : List Char) : List Char :=
  (cs.reverse.dropWhile p).reverse

def stripWhile (p : Char → Bool) (cs : List Char) : List Char :=
  dropRightWhile p (cs.dropWhile p)

def trimRight (cs : List Char) : List Char :=
  dropRightWhile isBlank cs

def trim (cs : List Char) : List Char :=
  stripWhile isBlank cs

def isBlankText (s : String) : Bool :=
  s.toList.all isBlank

def trimmed (s : String) : String :=
  String.ofList (trim s.toList)

def firstWord? (cs : List Char) : Option (List Char) :=
  match cs.dropWhile isBlank with
  | [] => none
  | rest => some (rest.takeWhile (!isBlank ·))

def blankRuns (cs : List Char) : Nat :=
  (cs.foldl
    (fun (count, inRun) c =>
      if isBlank c then (if inRun then count else count + 1, true) else (count, false))
    ((0 : Nat), false)).1

end MarkdownIntake.Text
