import MarkdownIntake.Text.CodePoint

/-!
This module contains Punycode, the form in which the name of a host that is not plain ASCII is
written with ASCII characters only.
-/

namespace MarkdownIntake.Web.Punycode

open MarkdownIntake.Text

def base : Nat := 36

def threshold (position bias : Nat) : Nat :=
  if base * (position + 1) ≤ bias + 1 then 1
  else if bias + 26 ≤ base * (position + 1) then 26
  else base * (position + 1) - bias

def digit (value : Nat) : Char :=
  if value < 26 then Char.ofNat (97 + value) else Char.ofNat (22 + value)

def digitValue? (c : Char) : Option Nat :=
  if 'a' ≤ c && c ≤ 'z' then some (c.toNat - 97)
  else if 'A' ≤ c && c ≤ 'Z' then some (c.toNat - 65)
  else if c.isDigit then some (c.toNat - 22)
  else none

/-- Divide by 35 until the value is at most 455; each division adds to the bias. -/
def adaptLoop (delta bias : Nat) : Nat :=
  if h : 455 < delta then
    adaptLoop (delta / 35) (bias + base)
  else
    bias + 36 * delta / (delta + 38)
termination_by delta
decreasing_by omega

def adapt (delta : Nat) (isFirst : Bool) (count : Nat) : Nat :=
  let delta := if isFirst then delta / 700 else delta / 2
  adaptLoop (delta + delta / count) 0

def deltaDigits (bias : Nat) : (fuel : Nat) → (position value : Nat) → List Char
  | 0, _, _ => []
  | fuel + 1, position, value =>
    let t := threshold position bias
    if value < t then
      [digit value]
    else
      digit (t + (value - t) % (base - t))
        :: deltaDigits bias fuel (position + 1) ((value - t) / (base - t))

structure Encoder where
  delta : Nat
  bias : Nat
  handled : Nat
  out : List Char

def insertCode (basicCount code : Nat) (label : List Char) (e : Encoder) : Encoder :=
  label.foldl
    (fun e c =>
      if c.toNat < code then
        { e with delta := e.delta + 1 }
      else if c.toNat = code then
        { delta := 0
          bias := adapt e.delta (e.handled == basicCount) (e.handled + 1)
          handled := e.handled + 1
          out := e.out ++ deltaDigits e.bias (e.delta + 1) 0 e.delta }
      else
        e)
    e

def extendedCodes (label : List Char) : List Nat :=
  ((label.filter (128 ≤ ·.toNat)).map Char.toNat).mergeSort.eraseDups

def encode (label : List Char) : List Char :=
  let basic := label.filter (·.toNat < 128)
  let start : Encoder := { delta := 0, bias := 72, handled := basic.length, out := [] }
  let (e, _) := (extendedCodes label).foldl
    (fun ((e, next) : Encoder × Nat) code =>
      let e := { e with delta := e.delta + (code - next) * (e.handled + 1) }
      let e := insertCode basic.length code label e
      ({ e with delta := e.delta + 1 }, code + 1))
    (start, 128)
  if basic.isEmpty then e.out else basic ++ '-' :: e.out

def readDelta? (bias : Nat) : (position weight value : Nat) → List Char → Option (Nat × List Char)
  | _, _, _, [] => none
  | position, weight, value, c :: rest => do
    let d ← digitValue? c
    let t := threshold position bias
    let value := value + d * weight
    if d < t then
      return (value, rest)
    else
      readDelta? bias (position + 1) (weight * (base - t)) value rest

/--
Insert the code points that the digits describe into `out`. `isFirst` holds for the first of them, and
`fuel` bounds their number.
-/
def insertAll? : (fuel : Nat) → (isFirst : Bool) → (code index bias : Nat) →
    (out : List CodePoint) → (digits : List Char) → Option (List CodePoint)
  | _, _, _, _, _, out, [] => some out
  | 0, _, _, _, _, _, _ => none
  | fuel + 1, isFirst, code, index, bias, out, digits => do
    let (delta, rest) ← readDelta? bias 0 1 0 digits
    let total := index + delta
    let count := out.length + 1
    let code := code + total / count
    let point ← CodePoint.ofNat? code
    let index := total % count
    let out := out.take index ++ point :: out.drop index
    insertAll? fuel false code (index + 1) (adapt delta isFirst count) out rest

def decode? (text : List Char) : Option (List Char) :=
  if text.any (127 < ·.toNat) then
    none
  else
    let digits := (text.reverse.takeWhile (· ≠ '-')).reverse
    let basic := text.take (text.length - digits.length - 1)
    (insertAll? digits.length true 128 0 72 (basic.map .ofChar) digits).map charsOfPoints

end MarkdownIntake.Web.Punycode
