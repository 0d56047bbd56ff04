import MarkdownIntake.Json.Value

/-!
This module contains the reading of JSON text. A string may hold its code points as they are or by
escapes, and two surrogates that form a pair are one code point.
-/

namespace MarkdownIntake.Json

open MarkdownIntake.Number MarkdownIntake.Text

def isGap (c : Char) : Bool :=
  c = ' ' || c = '\n' || c = '\r' || c = '\t'

def skipGap (cs : List Char) : List Char :=
  cs.dropWhile isGap

def hexValue? (c : Char) : Option Nat :=
  if '0' ≤ c && c ≤ '9' then some (c.toNat - 48)
  else if 'a' ≤ c && c ≤ 'f' then some (c.toNat - 87)
  else if 'A' ≤ c && c ≤ 'F' then some (c.toNat - 55)
  else none

def unit? (a b c d : Char) : Option CodePoint := do
  let a ← hexValue? a
  let b ← hexValue? b
  let c ← hexValue? c
  let d ← hexValue? d
  CodePoint.ofNat? (a * 4096 + b * 256 + c * 16 + d)

def simpleEscape? (c : Char) : Option Char :=
  if c = '"' then some '"'
  else if c = '\\' then some '\\'
  else if c = '/' then some '/'
  else if c = 'n' then some '\n'
  else if c = 'r' then some '\r'
  else if c = 't' then some '\t'
  else if c = 'f' then some '\x0c'
  else if c = 'b' then some '\x08'
  else none

/--
Read the code points of a string up to its closing quote, each surrogate on its own; `out` holds those
read, reversed.
-/
def readPoints? : List Char → (out : List CodePoint) → Option (List CodePoint × List Char)
  | '\\' :: 'u' :: a :: b :: c :: d :: rest, out =>
    match unit? a b c d with
    | some p => readPoints? rest (p :: out)
    | none => none
  | '\\' :: e :: rest, out =>
    match simpleEscape? e with
    | some c => readPoints? rest (.ofChar c :: out)
    | none => none
  | '"' :: rest, out => some (out.reverse, rest)
  | c :: rest, out => if c = '\\' then none else readPoints? rest (.ofChar c :: out)
  | [], _ => none

def isNumberChar (c : Char) : Bool :=
  c.isDigit || c = '-' || c = '+' || c = '.' || c = 'e' || c = 'E'

variable {σ : Type}

def numberOf? (cs : List Char) : Option (Value σ) :=
  let (negative, body) := splitSign cs
  if body.all Char.isDigit && !body.isEmpty then
    some (.int (if negative then -(digitsValue body : Int) else digitsValue body))
  else
    (readUnsigned? body).map fun d => .real (d.toBinary64 negative)

def readWord? (word : String) (v : Value σ) (cs : List Char) : Option (Value σ × List Char) :=
  if word.toList.isPrefixOf cs then some (v, cs.drop word.toList.length) else none

variable [Spelled σ]

def readString? (cs : List Char) : Option (σ × List Char) := do
  let (points, rest) ← readPoints? cs []
  let s ← Spelled.ofPoints? (joinPairs points)
  return (s, rest)

mutual

def readValue? : (fuel : Nat) → List Char → Option (Value σ × List Char)
  | 0, _ => none
  | fuel + 1, cs =>
    match skipGap cs with
    | [] => none
    | '"' :: rest => (readString? rest).map fun (s, rest) => (.str s, rest)
    | '[' :: rest =>
      match skipGap rest with
      | ']' :: rest => some (.arr [], rest)
      | rest => readItems? fuel rest []
    | '\x7b' :: rest =>
      match skipGap rest with
      | '\x7d' :: rest => some (.obj [], rest)
      | rest => readMembers? fuel rest []
    | 'n' :: rest => readWord? "ull" .null rest
    | 't' :: rest => readWord? "rue" (.bool true) rest
    | 'f' :: rest => readWord? "alse" (.bool false) rest
    | cs => (numberOf? (cs.takeWhile isNumberChar)).map fun v => (v, cs.dropWhile isNumberChar)

/-- Read the items of an array up to its closing bracket; `out` holds those read, reversed. -/
def readItems? : (fuel : Nat) → List Char → List (Value σ) → Option (Value σ × List Char)
  | 0, _, _ => none
  | fuel + 1, cs, out =>
    match readValue? fuel cs with
    | none => none
    | some (v, rest) =>
      match skipGap rest with
      | ',' :: rest => readItems? fuel rest (v :: out)
      | ']' :: rest => some (.arr (v :: out).reverse, rest)
      | _ => none

def readMembers? : (fuel : Nat) → List Char → List (String × Value σ) → Option (Value σ × List Char)
  | 0, _, _ => none
  | fuel + 1, cs, out =>
    match skipGap cs with
    | '"' :: rest =>
      match readString? rest with
      | none => none
      | some (name, rest) =>
        match skipGap rest with
        | ':' :: rest =>
          match readValue? fuel rest with
          | none => none
          | some (v, rest) =>
            match skipGap rest with
            | ',' :: rest => readMembers? fuel rest ((name, v) :: out)
            | '\x7d' :: rest => some (.obj ((name, v) :: out).reverse, rest)
            | _ => none
        | _ => none
    | _ => none

end

def Value.parse? (text : String) : Option (Value σ) :=
  let cs := text.toList
  match readValue? (cs.length + 1) cs with
  | some (v, rest) => if (skipGap rest).isEmpty then some v else none
  | none => none

end MarkdownIntake.Json
