import MarkdownIntake.Text.Lines

/-!
This module contains the kind of value that a plain text stands for: a word for yes or no, a number, a
date, nothing, or just a text.
-/

namespace MarkdownIntake.Yaml

open MarkdownIntake.Text

inductive Kind where
  | null
  | bool
  | int
  | real
  | moment
  | merge
  | value
  | text
deriving Repr, DecidableEq

namespace Kind

def nullWords : List String := ["~", "null", "Null", "NULL", ""]

def boolWords : List String := [
  "yes", "Yes", "YES", "no", "No", "NO", "true", "True", "TRUE", "false", "False", "FALSE",
  "on", "On", "ON", "off", "Off", "OFF"]

def isDigitOrGap (c : Char) : Bool :=
  c.isDigit || c = '_'

def unsigned : List Char → List Char
  | '-' :: rest => rest
  | '+' :: rest => rest
  | rest => rest

def isSixtieth (part : List Char) : Bool :=
  match part with
  | [c] => c.isDigit
  | [c, d] => '0' ≤ c && c ≤ '5' && d.isDigit
  | _ => false

def isRun (inClass : Char → Bool) (cs : List Char) : Bool :=
  !cs.isEmpty && cs.all inClass

def isInt (cs : List Char) : Bool :=
  match unsigned cs with
  | [] => false
  | '0' :: 'b' :: digits =>
    isRun (fun c => c = '0' || c = '1' || c = '_') digits
  | '0' :: 'x' :: digits =>
    isRun (fun c => isDigitOrGap c || ('a' ≤ c && c ≤ 'f') || ('A' ≤ c && c ≤ 'F')) digits
  | '0' :: digits => digits.all fun c => ('0' ≤ c && c ≤ '7') || c = '_'
  | c :: rest =>
    c.isDigit && match splitAt ':' rest with
      | [] => false
      | first :: others => first.all isDigitOrGap && others.all isSixtieth

def isExponent (cs : List Char) : Bool :=
  match cs with
  | [] => true
  | e :: sign :: digits =>
    (e = 'e' || e = 'E') && (sign = '-' || sign = '+') && isRun Char.isDigit digits
  | _ => false

def isPlainReal (isSigned : Bool) (cs : List Char) : Bool :=
  match cs with
  | '.' :: c :: rest =>
    !isSigned && c.isDigit && isExponent (rest.dropWhile isDigitOrGap)
  | c :: rest =>
    c.isDigit && match rest.dropWhile isDigitOrGap with
      | '.' :: rest => isExponent (rest.dropWhile isDigitOrGap)
      | _ => false
  | [] => false

def isSexagesimalReal (cs : List Char) : Bool :=
  match splitAt ':' cs with
  | first :: second :: others =>
    match (second :: others).reverse with
    | last :: between =>
      let whole := last.takeWhile (· ≠ '.')
      first.head?.any Char.isDigit && first.all isDigitOrGap && between.all isSixtieth
        && isSixtieth whole
        && match last.drop whole.length with
          | '.' :: fraction => fraction.all isDigitOrGap
          | _ => false
    | [] => false
  | _ => false

def infiniteWords : List String := [".inf", ".Inf", ".INF"]

def nanWords : List String := [".nan", ".NaN", ".NAN"]

def isReal (cs : List Char) : Bool :=
  let body := unsigned cs
  let isSigned := body.length < cs.length
  isPlainReal isSigned body || isSexagesimalReal body
    || infiniteWords.contains (String.ofList body) || nanWords.contains (String.ofList cs)

def readDigits? (least most : Nat) (cs : List Char) : Option (Nat × List Char) :=
  let digits := (cs.take most).takeWhile Char.isDigit
  if least ≤ digits.length then
    some (digits.foldl (fun n c => n * 10 + (c.toNat - 48)) 0, cs.drop digits.length)
  else
    none

structure Moment where
  year : Nat
  month : Nat
  day : Nat
  hour : Nat := 0
  minute : Nat := 0
  second : Nat := 0
  offset : Nat := 0

def after? (c : Char) : List Char → Option (List Char)
  | [] => none
  | d :: rest => if c = d then some rest else none

def readOffset? (cs : List Char) : Option Nat :=
  match cs.dropWhile (fun c => c = ' ' || c = '\t') with
  | [] => if cs.isEmpty then some 0 else none
  | ['Z'] => some 0
  | sign :: rest =>
    if sign = '-' || sign = '+' then do
      let (hours, rest) ← readDigits? 1 2 rest
      match rest with
      | [] => some (hours * 60)
      | _ => do
        let (minutes, rest) ← readDigits? 2 2 (← after? ':' rest)
        if rest.isEmpty then some (hours * 60 + minutes) else none
    else
      none

def readTime? (date : Moment) (cs : List Char) : Option Moment := do
  let (hour, rest) ← readDigits? 1 2 cs
  let (minute, rest) ← readDigits? 2 2 (← after? ':' rest)
  let (second, rest) ← readDigits? 2 2 (← after? ':' rest)
  let rest := match rest with
    | '.' :: rest => rest.dropWhile Char.isDigit
    | rest => rest
  return { date with hour, minute, second, offset := ← readOffset? rest }

def readMoment? (cs : List Char) : Option Moment := do
  let (year, rest) ← readDigits? 4 4 cs
  let (month, rest) ← readDigits? 1 2 (← after? '-' rest)
  let (day, rest) ← readDigits? 1 2 (← after? '-' rest)
  let date : Moment := { year, month, day }
  match rest with
  | [] => some date
  | 't' :: rest => readTime? date rest
  | 'T' :: rest => readTime? date rest
  | c :: _ =>
    if c = ' ' || c = '\t' then
      readTime? date (rest.dropWhile fun c => c = ' ' || c = '\t')
    else
      none

/-- Whether a plain text is taken for a date: without a time of day it needs all its digits. -/
def isMoment (cs : List Char) : Bool :=
  (readMoment? cs).isSome && (10 < cs.length || cs.length = 10 && cs.all fun c => c.isDigit || c = '-')

def ofPlain (text : String) : Kind :=
  let cs := text.toList
  if nullWords.contains text then .null
  else if boolWords.contains text then .bool
  else if isReal cs then .real
  else if isInt cs then .int
  else if isMoment cs then .moment
  else if text = "<<" then .merge
  else if text = "=" then .value
  else .text

end Kind

end MarkdownIntake.Yaml
