import MarkdownIntake.Number.Binary64
import MarkdownIntake.Number.Literal

/-!
This module contains the decimal text of binary floating point numbers: reading one, writing the
shortest one that reads back, and writing one rounded to a few digits.
-/

namespace MarkdownIntake.Number

open MarkdownIntake.Text

structure Decimal where
  digits : Nat
  exponent : Int
deriving Repr, DecidableEq

def readExponent? : List Char → Option Int
  | [] => some 0
  | c :: rest =>
    if c = 'e' || c = 'E' then
      let (negative, digits) := splitSign rest
      if digits.isEmpty || !digits.all Char.isDigit then
        none
      else
        let value : Int := digitsValue digits
        some (if negative then -value else value)
    else
      none

def readUnsigned? (cs : List Char) : Option Decimal :=
  let whole := cs.takeWhile Char.isDigit
  let rest := cs.dropWhile Char.isDigit
  let (fraction, rest) := match rest with
    | '.' :: rest => (rest.takeWhile Char.isDigit, rest.dropWhile Char.isDigit)
    | rest => ([], rest)
  if whole.isEmpty && fraction.isEmpty then
    none
  else
    (readExponent? rest).map fun exponent =>
      ⟨digitsValue (whole ++ fraction), exponent - fraction.length⟩

def Decimal.toBinary64 (negative : Bool) (d : Decimal) : Binary64 :=
  if d.digits = 0 then
    .signedZero negative
  else if d.exponent + (Nat.toDigits 10 d.digits).length < -400 then
    .signedZero negative
  else if 400 < d.exponent + (Nat.toDigits 10 d.digits).length then
    .infinite negative
  else
    .ofDecimal negative d.digits d.exponent

def readDecimal (text : String) : Except LiteralError Binary64 :=
  let body := plainDigits (stripWhile isPadding text.toList)
  let (negative, rest) := splitSign body
  let word := String.ofList (rest.map Char.toLower)
  if word = "inf" || word = "infinity" then
    .ok (.infinite negative)
  else if word = "nan" then
    .ok .nan
  else
    match withoutUnderscores? rest with
    | none => .error (.notADecimal text)
    | some cs =>
      match readUnsigned? cs with
      | none => .error (.notADecimal text)
      | some decimal => .ok (decimal.toBinary64 negative)

namespace Binary64

def roundingInterval (mantissa : Nat) (exponent : Int) : (Nat × Nat) × (Nat × Nat) :=
  let low :=
    if mantissa = mantissaBound / 2 && minExponent < exponent then
      ratio (4 * mantissa - 1) (exponent - 2)
    else
      ratio (2 * mantissa - 1) (exponent - 1)
  (low, ratio (2 * mantissa + 1) (exponent - 1))

def ratioLt (a b : Nat × Nat) : Bool :=
  a.1 * b.2 < b.1 * a.2

def inInterval (interval : (Nat × Nat) × (Nat × Nat)) (endsIncluded : Bool) (x : Nat × Nat) :
    Bool :=
  if endsIncluded then
    !ratioLt x interval.1 && !ratioLt interval.2 x
  else
    ratioLt interval.1 x && ratioLt x interval.2

def decimalRatio (d : Decimal) : Nat × Nat :=
  if d.exponent < 0 then (d.digits, tenPow d.exponent.natAbs)
  else (d.digits * tenPow d.exponent.natAbs, 1)

def pointOf (num den : Nat) : Int :=
  let guess : Int := (Nat.toDigits 10 num).length - (Nat.toDigits 10 den).length
  let below (p : Int) : Bool := ratioLt (num, den) (decimalRatio ⟨1, p⟩)
  if below (guess - 1) then guess - 1 else if below guess then guess else guess + 1

/--
The decimal of `count` digits that lies in the interval and is nearest to `num / den`; of two that
are equally near, the one with the even last digit.
-/
def decimalOf? (interval : (Nat × Nat) × (Nat × Nat)) (endsIncluded : Bool) (num den : Nat)
    (point : Int) (count : Nat) : Option Decimal :=
  let unit : Int := point - count
  let (n, d) :=
    if unit < 0 then (num * tenPow unit.natAbs, den) else (num, den * tenPow unit.natAbs)
  let nearest := roundDiv n d
  let below := n / d
  let candidates := [nearest, below, below + 1].map (⟨·, unit⟩ : Nat → Decimal)
  candidates.find? fun c => inInterval interval endsIncluded (decimalRatio c)

def shortestDecimal (mantissa : Nat) (exponent : Int) : Decimal :=
  let (num, den) := ratio mantissa exponent
  let interval := roundingInterval mantissa exponent
  let point := pointOf num den
  ((List.range' 1 17).findSome? (decimalOf? interval (mantissa % 2 == 0) num den point)).getD
    ⟨mantissa, exponent⟩

structure Layout where
  /-- The least place of the point that is written without an exponent, less one. -/
  lowPoint : Int
  highPoint : Int

def plainLayout : Layout := ⟨-4, 16⟩

def exponentText (e : Int) : List Char :=
  let digits := Nat.toDigits 10 e.natAbs
  'e' :: (if e < 0 then '-' else '+') :: (List.replicate (2 - digits.length) '0' ++ digits)

def layOut (layout : Layout) (digits : List Char) (point : Int) : List Char :=
  if layout.lowPoint < point && point ≤ layout.highPoint then
    if point ≤ 0 then
      '0' :: '.' :: (List.replicate point.natAbs '0' ++ digits)
    else
      let whole := point.toNat
      if digits.length ≤ whole then
        digits ++ List.replicate (whole - digits.length) '0' ++ ['.', '0']
      else
        digits.take whole ++ '.' :: digits.drop whole
  else
    match digits with
    | [] => []
    | [c] => c :: exponentText (point - 1)
    | c :: rest => c :: '.' :: rest ++ exponentText (point - 1)

def significantDigits (n : Nat) : List Char :=
  dropRightWhile (· = '0') (Nat.toDigits 10 n)

def text : Binary64 → String
  | .nan => "nan"
  | .infinite negative => if negative then "-inf" else "inf"
  | .finite negative m e _ =>
    let body :=
      if m = 0 then
        ['0', '.', '0']
      else
        let d := shortestDecimal m e
        let point := (Nat.toDigits 10 d.digits).length + d.exponent
        layOut plainLayout (significantDigits d.digits) point
    String.ofList (if negative then '-' :: body else body)

def wholeText : Binary64 → String
  | .nan => "nan"
  | .infinite negative => if negative then "-inf" else "inf"
  | .finite negative m e _ =>
    let (num, den) := ratio m e
    let digits := toString (roundDiv num den)
    if negative then "-" ++ digits else digits

def tenthsText : Binary64 → String
  | .nan => "nan"
  | .infinite negative => if negative then "-inf" else "inf"
  | .finite negative m e _ =>
    let (num, den) := ratio m e
    let tenths := roundDiv (10 * num) den
    let digits := s!"{tenths / 10}.{tenths % 10}"
    if negative then "-" ++ digits else digits

end Binary64

end MarkdownIntake.Number
