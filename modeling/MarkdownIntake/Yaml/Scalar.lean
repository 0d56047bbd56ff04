import MarkdownIntake.Number.Decimal
import MarkdownIntake.Text.Utf8
import MarkdownIntake.Yaml.Kind
import MarkdownIntake.Yaml.Value

/-!
This module contains the values that the texts of single nodes stand for, once it is known what kind
of value is meant. A text may fail to be such a value.
-/

namespace MarkdownIntake.Yaml

open MarkdownIntake.Number MarkdownIntake.Text

inductive Error where
  | malformed
  | unknownWord
  | emptyNumber
  | noMoment
  | mapAsMoment
  | tooLarge
deriving Repr, DecidableEq

namespace Scalar

def digitIn? (base : Nat) (c : Char) : Option Nat :=
  let value? :=
    if c.isDigit then some (c.toNat - 48)
    else if 'a' ≤ c && c ≤ 'f' then some (c.toNat - 87)
    else if 'A' ≤ c && c ≤ 'F' then some (c.toNat - 55)
    else none
  value?.filter (· < base)

def natIn? (base : Nat) (digits : List Char) : Option Nat :=
  if digits.isEmpty then none
  else digits.foldl
    (fun n? c => match n?, digitIn? base c with
      | some n, some d => some (n * base + d)
      | _, _ => none)
    (some 0)

def sexagesimal (parts : List Int) : Int :=
  parts.foldl (fun n part => n * 60 + part) 0

def readUnsignedInt (cs : List Char) : Except Error Int :=
  let ofNat? (n? : Option Nat) : Except Error Int := match n? with
    | some n => .ok n
    | none => .error .malformed
  match cs with
  | [] => .error .emptyNumber
  | ['0'] => .ok 0
  | '0' :: 'b' :: digits => ofNat? (natIn? 2 digits)
  | '0' :: 'x' :: digits => ofNat? (natIn? 16 digits)
  | '0' :: 'o' :: digits => ofNat? (natIn? 8 digits)
  | '0' :: digits => ofNat? (natIn? 8 digits)
  | _ =>
    match (splitAt ':' cs).mapM fun part => (readInteger (String.ofList part)).toOption with
    | some parts => .ok (sexagesimal parts)
    | none => .error .malformed

def withoutGaps (text : String) : List Char :=
  text.toList.filter (· ≠ '_')

def isNegative (cs : List Char) : Bool :=
  cs.head? == some '-'

def readInt (text : String) : Except Error Value := do
  let cs := withoutGaps text
  let n ← readUnsignedInt (Kind.unsigned cs)
  return .int (if isNegative cs then -n else n)

/-- As `sexagesimal`, as long as there is a number for what the first part is worth. -/
def sexagesimalReal (parts : List Binary64) : Except Error Binary64 :=
  match Binary64.ofInt (Int.pow 60 (parts.length - 1)) with
  | .infinite _ => .error .tooLarge
  | _ =>
    .ok (parts.reverse.foldl
      (fun (sum, base) part => (sum.add (part.mul (.ofInt base)), base * 60))
      (Binary64.ofInt 0, (1 : Int))).1

def readReal (text : String) : Except Error Value :=
  let cs := (withoutGaps text).map Char.toLower
  let body := Kind.unsigned cs
  let signed (x : Binary64) : Value := .real (if isNegative cs then x.neg else x)
  if cs.isEmpty then .error .emptyNumber
  else if body = ".inf".toList then .ok (signed (.infinite false))
  else if body = ".nan".toList then .ok (.real .nan)
  else
    match (splitAt ':' body).mapM fun part => (readDecimal (String.ofList part)).toOption with
    | some [x] => .ok (signed x)
    | some parts => (sexagesimalReal parts).map signed
    | none => .error .malformed

def readBool (text : String) : Except Error Value :=
  let word := String.ofList (text.toList.map Char.toLower)
  if ["yes", "true", "on"].contains word then .ok (.bool true)
  else if ["no", "false", "off"].contains word then .ok (.bool false)
  else .error .unknownWord

def daysIn (year month : Nat) : Nat :=
  if month = 2 then (if year % 4 = 0 && (year % 100 ≠ 0 || year % 400 = 0) then 29 else 28)
  else if [4, 6, 9, 11].contains month then 30
  else 31

def readMoment (text : String) : Except Error Value :=
  match Kind.readMoment? text.toList with
  | none => .error .noMoment
  | some m =>
    if 1 ≤ m.year && 1 ≤ m.month && m.month ≤ 12 && 1 ≤ m.day && m.day ≤ daysIn m.year m.month
        && m.hour < 24 && m.minute < 60 && m.second < 60 && m.offset < 24 * 60 then
      .ok .moment
    else
      .error .malformed

def digit64? (c : Char) : Option Nat :=
  if 'A' ≤ c && c ≤ 'Z' then some (c.toNat - 65)
  else if 'a' ≤ c && c ≤ 'z' then some (c.toNat - 71)
  else if c.isDigit then some (c.toNat + 4)
  else if c = '+' then some 62
  else if c = '/' then some 63
  else none

/-- The bytes of digits that encode three bytes in four; a rest of one digit encodes nothing. -/
def bytesOf? : List Nat → Option (List Nat)
  | [] => some []
  | [_] => none
  | [a, b] => some [a * 4 + b / 16]
  | [a, b, c] => some [a * 4 + b / 16, b % 16 * 16 + c / 4]
  | a :: b :: c :: d :: rest =>
    (bytesOf? rest).map ([a * 4 + b / 16, b % 16 * 16 + c / 4, c % 4 * 64 + d] ++ ·)

def readBytes (text : String) : Except Error Value :=
  let cs := text.toList
  -- Signs that are no digits are passed over.
  let digits := (cs.takeWhile (· ≠ '=')).filterMap digit64?
  let fill := ((cs.dropWhile (· ≠ '=')).filter (· = '=')).length
  let isFilled := (digits.length + fill) % 4 = 0 || digits.length % 4 = 0
  if cs.all (·.toNat < 128) && isFilled then
    match bytesOf? digits with
    | some bytes => .ok (.bytes bytes)
    | none => .error .malformed
  else
    .error .malformed

def read (kind : Kind) (text : String) : Except Error Value :=
  match kind with
  | .null => .ok .null
  | .bool => readBool text
  | .int => readInt text
  | .real => readReal text
  | .moment => readMoment text
  | .merge | .value => .error .malformed
  | .text => .ok (.text text)

end Scalar

end MarkdownIntake.Yaml
