import MarkdownIntake.Number.Binary64
import MarkdownIntake.Text.Blank
import MarkdownIntake.Text.DecimalDigit
import MarkdownIntake.Text.Quoted

/-!
This module contains the reading of whole numbers written by people: blanks around the number, a
sign, the decimal digits of any script and single underscores between digits are all accepted.
-/

namespace MarkdownIntake.Number

open MarkdownIntake.Text

inductive LiteralError where
  | notAnInteger (text : String)
  | notADecimal (text : String)
  | tooManyDigits (count : Nat)
deriving Repr, DecidableEq

def maxDigits : Nat := 4300

/-- The least number that has too many digits to be told in decimal. -/
def leastUntellable : Nat :=
  Binary64.tenPow maxDigits

theorem leastUntellable_pos : 0 < leastUntellable :=
  Binary64.tenPow_pos maxDigits

def isTellable (n : Int) : Bool :=
  n.natAbs < leastUntellable

def untellableMessage : String :=
  "Exceeds the limit (4300 digits) for integer string conversion; "
    ++ "use sys.set_int_max_str_digits() to increase the limit"

def LiteralError.message : LiteralError → String
  | .notAnInteger text => "invalid literal for int() with base 10: " ++ quoted text
  | .notADecimal text => "could not convert string to float: " ++ quoted text
  | .tooManyDigits count =>
    "Exceeds the limit (4300 digits) for integer string conversion: value has "
      ++ toString count ++ " digits; use sys.set_int_max_str_digits() to increase the limit"

/-- The blanks that may stand around a number; the separators U+001C to U+001F may not. -/
def isPadding (c : Char) : Bool :=
  isBlank c && !(28 ≤ c.toNat && c.toNat ≤ 31)

def plainDigits (cs : List Char) : List Char :=
  cs.map fun c => match digitValue? c with
    | some value => Char.ofNat (48 + value)
    | none => c

def splitSign : List Char → Bool × List Char
  | '-' :: rest => (true, rest)
  | '+' :: rest => (false, rest)
  | rest => (false, rest)

def digitsValue (digits : List Char) : Nat :=
  digits.foldl (fun value c => value * 10 + (c.toNat - 48)) 0

def underscoresSeparate : Bool → List Char → Bool
  | _, [] => true
  | afterDigit, '_' :: rest =>
    afterDigit && (match rest with
      | c :: _ => c.isDigit
      | [] => false) && underscoresSeparate false rest
  | _, c :: rest => underscoresSeparate c.isDigit rest

def withoutUnderscores? (cs : List Char) : Option (List Char) :=
  if underscoresSeparate false cs then some (cs.filter (· ≠ '_')) else none

def readInteger (text : String) : Except LiteralError Int :=
  let (negative, body) := splitSign (plainDigits (stripWhile isPadding text.toList))
  match withoutUnderscores? body with
  | none => .error (.notAnInteger text)
  | some digits =>
    if digits.isEmpty || !digits.all Char.isDigit then
      .error (.notAnInteger text)
    else if maxDigits < digits.length then
      .error (.tooManyDigits digits.length)
    else
      .ok (if negative then -(digitsValue digits : Int) else digitsValue digits)

end MarkdownIntake.Number
