import MarkdownIntake.Markdown.Character

/-!
This module contains character references (a name or a number between `&` and `;`) and backslash
escapes.
-/

namespace MarkdownIntake.Markdown

def namedCharacters : List (String × String) := [
  ("AElig", "\u00c6"),
  ("AMP", "&"),
  ("ClockwiseContourIntegral", "\u2232"),
  ("Dcaron", "\u010e"),
  ("DifferentialD", "\u2146"),
  ("HilbertSpace", "\u210b"),
  ("amp", "&"),
  ("auml", "\u00e4"),
  ("copy", "\u00a9"),
  ("frac34", "\u00be"),
  ("gt", ">"),
  ("lt", "<"),
  ("nbsp", "\u00a0"),
  ("ngE", "\u2267\u0338"),
  ("ouml", "\u00f6"),
  ("quot", "\"")]

def isCharacterCode (n : Nat) : Bool :=
  !((0xD800 ≤ n && n ≤ 0xDFFF) || (0xFDD0 ≤ n && n ≤ 0xFDEF)
    || n % 0x10000 == 0xFFFF || n % 0x10000 == 0xFFFE
    || n ≤ 8 || n == 0x0B || (0x0E ≤ n && n ≤ 0x1F) || (0x7F ≤ n && n ≤ 0x9F) || 0x10FFFF < n)

def isHex (c : Char) : Bool :=
  c.isDigit || ('a' ≤ c && c ≤ 'f') || ('A' ≤ c && c ≤ 'F')

def hexNumber (digits : List Char) : Nat :=
  digits.foldl
    (fun n c =>
      n * 16 + (if c.isDigit then c.toNat - 48 else if 'a' ≤ c then c.toNat - 87 else c.toNat - 55))
    0

def decimalNumber (digits : List Char) : Nat :=
  digits.foldl (fun n c => n * 10 + (c.toNat - 48)) 0

structure NumericReference where
  code : Nat
  length : Nat

/--
Read a reference by number at the start of the text after `&#`, with at most `maxHex` hexadecimal or
`maxDecimal` decimal digits.
-/
def numericReference? (maxHex maxDecimal : Nat) (cs : List Char) : Option NumericReference :=
  match cs with
  | [] => none
  | c :: rest =>
    if c = 'x' || c = 'X' then
      let digits := rest.takeWhile isHex
      if 1 ≤ digits.length && digits.length ≤ maxHex
          && (rest.drop digits.length).head? == some ';' then
        some ⟨hexNumber digits, digits.length + 4⟩
      else
        none
    else
      let digits := cs.takeWhile Char.isDigit
      if 1 ≤ digits.length && digits.length ≤ maxDecimal
          && (cs.drop digits.length).head? == some ';' then
        some ⟨decimalNumber digits, digits.length + 3⟩
      else
        none

def namedReference? (cs : List Char) : Option (List Char × Nat) :=
  let name := cs.takeWhile Char.isAlphanum
  if (cs.drop name.length).head? == some ';' then
    (namedCharacters.lookup (String.ofList name)).map fun s => (s.toList, name.length + 2)
  else
    none

def textReference? (cs : List Char) : Option (List Char × Nat) :=
  match cs with
  | '#' :: rest =>
    (numericReference? 6 7 rest).map fun r =>
      ([if isCharacterCode r.code then Char.ofNat r.code else '\uFFFD'], r.length)
  | _ => namedReference? cs

/--
A reference in an address or a title after `&`. A number that stands for no character is left as it
is written.
-/
def attributeReference? (cs : List Char) : Option (List Char × Nat) :=
  match cs with
  | '#' :: rest =>
    match numericReference? 8 8 rest with
    | some r => if isCharacterCode r.code then some ([Char.ofNat r.code], r.length) else none
    | none => none
  | _ => namedReference? cs

def unescape (cs : List Char) : List Char :=
  match cs with
  | [] => []
  | '\\' :: c :: rest =>
    if isAsciiPunctuation c then c :: unescape rest else '\\' :: unescape (c :: rest)
  | '&' :: rest =>
    match attributeReference? rest with
    | some (shown, length) => shown ++ unescape (rest.drop (length - 1))
    | none => '&' :: unescape rest
  | c :: rest => c :: unescape rest
termination_by cs.length

end MarkdownIntake.Markdown
