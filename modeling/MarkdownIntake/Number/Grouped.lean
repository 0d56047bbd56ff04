/-!
This module contains numbers with their digits in groups of three.
-/

namespace MarkdownIntake.Number

def groupReversed : List Char → List Char
  | a :: b :: c :: d :: rest => a :: b :: c :: ',' :: groupReversed (d :: rest)
  | digits => digits

def grouped (n : Nat) : String :=
  String.ofList (groupReversed (Nat.repr n).toList.reverse).reverse

end MarkdownIntake.Number
