/-!
This module contains membership of a character in a list of code point ranges, the form in which
the tables of this library state a property of characters.
-/

namespace MarkdownIntake.Text

abbrev CodeRange := Nat × Nat

def inRanges (ranges : List CodeRange) (c : Char) : Bool :=
  ranges.any fun (first, last) => first ≤ c.toNat && c.toNat ≤ last

end MarkdownIntake.Text
