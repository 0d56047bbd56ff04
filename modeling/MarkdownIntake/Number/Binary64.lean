/-!
This module contains binary floating point numbers of 64 bits as exact fractions: each finite number
is a mantissa times a power of two. All operations compute exactly and round once, to the nearest
number and on a tie to the even mantissa.
-/

namespace MarkdownIntake.Number

namespace Binary64

def minExponent : Int := -1074

def maxExponent : Int := 971

def mantissaBound : Nat := 1 <<< 53

/--
A mantissa and an exponent that a number is held as. There is one pair for each number: the mantissa
has all its bits unless the exponent is the least one.
-/
structure IsHeld (mantissa : Nat) (exponent : Int) : Prop where
  mantissa_lt : mantissa < mantissaBound
  min_le : minExponent ≤ exponent
  le_max : exponent ≤ maxExponent
  full : mantissaBound / 2 ≤ mantissa ∨ exponent = minExponent

end Binary64

/-- A binary floating point number: `finite negative m e _` stands for `± m * 2 ^ e`. -/
inductive Binary64 where
  | nan
  | infinite (negative : Bool)
  | finite (negative : Bool) (mantissa : Nat) (exponent : Int)
      (isHeld : Binary64.IsHeld mantissa exponent)
deriving Repr, DecidableEq

namespace Binary64

def signedZero (negative : Bool) : Binary64 :=
  .finite negative 0 minExponent ⟨by decide, by decide, by decide, .inr rfl⟩

def scaled (num den : Nat) (e : Int) : Nat × Nat :=
  if e < 0 then (num <<< e.natAbs, den) else (num, den <<< e.natAbs)

theorem shiftLeft_pos {n : Nat} (h : 0 < n) (count : Nat) : 0 < n <<< count := by
  rw [Nat.shiftLeft_eq]
  exact Nat.mul_pos h (Nat.two_pow_pos count)

theorem shiftLeft_div_shiftLeft (a b count : Nat) : (a <<< count) / (b <<< count) = a / b := by
  rw [Nat.shiftLeft_eq, Nat.shiftLeft_eq, Nat.mul_div_mul_right _ _ (Nat.two_pow_pos count)]

theorem scaled_den_pos {num den : Nat} (h : 0 < den) (e : Int) : 0 < (scaled num den e).2 := by
  unfold scaled
  split
  . exact h
  . exact shiftLeft_pos h _

def wholeAt (num den : Nat) (e : Int) : Nat :=
  (scaled num den e).1 / (scaled num den e).2

theorem wholeAt_eq {num den up down : Nat} {e : Int} (h : e = (down : Int) - up) :
    wholeAt num den e = (num <<< up) / (den <<< down) := by
  unfold wholeAt scaled
  split
  . have hup : up = e.natAbs + down := by omega
    rw [hup, Nat.shiftLeft_add, shiftLeft_div_shiftLeft]
  . have hdown : down = e.natAbs + up := by omega
    rw [hdown, Nat.shiftLeft_add, shiftLeft_div_shiftLeft]

theorem wholeAt_add (num den count : Nat) (e : Int) :
    wholeAt num den (e + count) = wholeAt num den e >>> count := by
  have h : e = (e.toNat : Int) - (-e).toNat := by omega
  have hadd : e + count = ((e.toNat + count : Nat) : Int) - (-e).toNat := by omega
  rw [wholeAt_eq h, wholeAt_eq hadd, Nat.shiftLeft_add, Nat.shiftRight_eq_div_pow,
    Nat.div_div_eq_div_mul, ← Nat.shiftLeft_eq]

/-- The exponent at which the whole part of `num / den` has about 53 bits: it may have one more. -/
def exponentGuess (num den : Nat) : Int :=
  (num.log2 : Int) - den.log2 - 53

theorem wholeAt_exponentGuess {num den : Nat} (hnum : num ≠ 0) (hden : 0 < den) :
    mantissaBound / 2 ≤ wholeAt num den (exponentGuess num den)
      ∧ wholeAt num den (exponentGuess num den) < 2 * mantissaBound := by
  have hguess : exponentGuess num den = (num.log2 : Int) - (den.log2 + 53 : Nat) := by
    unfold exponentGuess
    omega
  have hpos : 0 < den <<< num.log2 := shiftLeft_pos hden _
  rw [wholeAt_eq hguess, Nat.le_div_iff_mul_le hpos, Nat.div_lt_iff_lt_mul hpos]
  -- With `n` and `d` for the powers of two, `n ≤ num < 2 * n` and `d ≤ den < 2 * d`.
  simp only [mantissaBound, Nat.shiftLeft_eq, Nat.pow_add]
  have hnumLow := Nat.log2_self_le hnum
  have hnumHigh : num < _ := Nat.lt_log2_self
  have hdenLow := Nat.log2_self_le (Nat.ne_of_gt hden)
  have hdenHigh : den < _ := Nat.lt_log2_self
  rw [Nat.pow_succ, Nat.mul_comm] at hnumHigh hdenHigh
  generalize 2 ^ num.log2 = n at *
  generalize 2 ^ den.log2 = d at *
  have hlow : den * n ≤ 2 * (n * d) := by
    rw [Nat.mul_left_comm, Nat.mul_comm n]
    exact Nat.mul_le_mul_right n (Nat.le_of_lt hdenHigh)
  have hhigh : num * d < 2 * (n * d) := by
    rw [← Nat.mul_assoc]
    exact Nat.mul_lt_mul_of_pos_right hnumHigh (by omega)
  have hnd : n * d ≤ num * d := Nat.mul_le_mul_right d hnumLow
  have hdn : n * d ≤ den * n := by
    rw [Nat.mul_comm]
    exact Nat.mul_le_mul_right n hdenLow
  rw [← Nat.mul_assoc num]
  constructor
  . omega
  . omega

def exponentFor (num den : Nat) : Int :=
  let guess := exponentGuess num den
  max (if wholeAt num den guess < mantissaBound then guess else guess + 1) minExponent

theorem wholeAt_exponentFor {num den : Nat} (hnum : num ≠ 0) (hden : 0 < den) :
    wholeAt num den (exponentFor num den) < mantissaBound
      ∧ (mantissaBound / 2 ≤ wholeAt num den (exponentFor num den)
        ∨ exponentFor num den = minExponent) := by
  obtain ⟨hlow, hhigh⟩ := wholeAt_exponentGuess hnum hden
  have hnext : wholeAt num den (exponentGuess num den + 1) =
      wholeAt num den (exponentGuess num den) / 2 := wholeAt_add num den 1 _
  -- Without the least exponent, the whole part would have 53 bits in any case.
  obtain ⟨e, he, hfull, hlt⟩ : ∃ e, exponentFor num den = max e minExponent
      ∧ mantissaBound / 2 ≤ wholeAt num den e ∧ wholeAt num den e < mantissaBound := by
    refine ⟨_, rfl, ?_⟩
    split
    . next h => exact ⟨hlow, h⟩
    . rw [hnext]
      omega
  by_cases hmin : minExponent ≤ e
  . rw [he, Int.max_eq_left hmin]
    exact ⟨hlt, .inl hfull⟩
  . have hsteps : minExponent = e + (minExponent - e).toNat := by omega
    rw [he, Int.max_eq_right (by omega)]
    refine ⟨?_, .inr rfl⟩
    rw [hsteps, wholeAt_add]
    exact Nat.lt_of_le_of_lt (Nat.shiftRight_le ..) hlt

def roundDiv (num den : Nat) : Nat :=
  let quotient := num / den
  let rest := 2 * (num % den)
  if rest < den then quotient
  else if den < rest then quotient + 1
  else if quotient % 2 = 0 then quotient
  else quotient + 1

theorem roundDiv_eq_or (num den : Nat) :
    roundDiv num den = num / den ∨ roundDiv num den = num / den + 1 := by
  simp only [roundDiv]
  split
  . exact .inl rfl
  . split
    . exact .inr rfl
    . split
      . exact .inl rfl
      . exact .inr rfl

def rounded (num den : Nat) : Nat × Int :=
  let e := exponentFor num den
  let (n, d) := scaled num den e
  let mantissa := roundDiv n d
  if mantissa = mantissaBound then (mantissa / 2, e + 1) else (mantissa, e)

theorem isHeld_rounded {num den : Nat} (hnum : num ≠ 0) (hden : 0 < den)
    (h : (rounded num den).2 ≤ maxExponent) : IsHeld (rounded num den).1 (rounded num den).2 := by
  obtain ⟨hlt, hfull⟩ := wholeAt_exponentFor hnum hden
  have hround : roundDiv _ _ = wholeAt num den _ ∨ roundDiv _ _ = wholeAt num den _ + 1 :=
    roundDiv_eq_or (scaled num den (exponentFor num den)).1 (scaled num den (exponentFor num den)).2
  have hmin : minExponent ≤ exponentFor num den := Int.le_max_right ..
  simp only [rounded] at h ⊢
  split at h
  . next hbound =>
    -- Rounding has reached the bound, and half of it is full again at the next exponent.
    rw [if_pos hbound]
    simp only [hbound]
    exact ⟨by decide, by omega, h, .inl (by decide)⟩
  . next hbound =>
    rw [if_neg hbound]
    exact ⟨by omega, hmin, h, by omega⟩

def ofRatio (negative : Bool) (num den : Nat) (hden : 0 < den) : Binary64 :=
  if hnum : num = 0 then
    signedZero negative
  else
    let nearest := rounded num den
    if h : maxExponent < nearest.2 then
      .infinite negative
    else
      .finite negative nearest.1 nearest.2 (isHeld_rounded hnum hden (Int.not_lt.mp h))

def ofInt (n : Int) : Binary64 :=
  ofRatio (n < 0) n.natAbs 1 (by decide)

def tenPow (exponent : Nat) : Nat :=
  Nat.pow 10 exponent

theorem tenPow_pos (exponent : Nat) : 0 < tenPow exponent :=
  Nat.pow_pos (by decide)

theorem tenPow_le_tenPow {m n : Nat} (h : m ≤ n) : tenPow m ≤ tenPow n :=
  Nat.pow_le_pow_right (by decide) h

def ofDecimal (negative : Bool) (digits : Nat) (exponent : Int) : Binary64 :=
  if exponent < 0 then
    ofRatio negative digits (tenPow exponent.natAbs) (tenPow_pos _)
  else
    ofRatio negative (digits * tenPow exponent.natAbs) 1 (by decide)

def ratio (mantissa : Nat) (exponent : Int) : Nat × Nat :=
  scaled mantissa 1 (-exponent)

theorem ratio_den_pos (mantissa : Nat) (exponent : Int) : 0 < (ratio mantissa exponent).2 :=
  scaled_den_pos (by decide) _

def neg : Binary64 → Binary64
  | .nan => .nan
  | .infinite negative => .infinite !negative
  | .finite negative m e h => .finite (!negative) m e h

def isPositive : Binary64 → Bool
  | .nan => false
  | .infinite negative => !negative
  | .finite negative m _ _ => !negative && m != 0

def isZero : Binary64 → Bool
  | .finite _ m _ _ => m == 0
  | _ => false

def toInt? : Binary64 → Option Int
  | .finite negative m e _ =>
    let (num, den) := ratio m e
    if num % den = 0 then
      some (if negative then -((num / den : Nat) : Int) else ((num / den : Nat) : Int))
    else
      none
  | _ => none

def mul : Binary64 → Binary64 → Binary64
  | .finite s m e _, .finite t n f _ =>
    let product := ratio (m * n) (e + f)
    ofRatio (s != t) product.1 product.2 (ratio_den_pos ..)
  | .nan, _ => .nan
  | _, .nan => .nan
  | .infinite s, .infinite t => .infinite (s != t)
  | .infinite s, .finite t n _ _ => if n = 0 then .nan else .infinite (s != t)
  | .finite s m _ _, .infinite t => if m = 0 then .nan else .infinite (s != t)

def add : Binary64 → Binary64 → Binary64
  | .finite s m e _, .finite t n f _ =>
    let low := min e f
    let left : Int := (m <<< (e - low).toNat : Nat)
    let right : Int := (n <<< (f - low).toNat : Nat)
    let sum := (if s then -left else left) + (if t then -right else right)
    if sum = 0 then
      signedZero (s && t)
    else
      let fraction := ratio sum.natAbs low
      ofRatio (sum < 0) fraction.1 fraction.2 (ratio_den_pos ..)
  | .nan, _ => .nan
  | _, .nan => .nan
  | .infinite s, .infinite t => if s = t then .infinite s else .nan
  | .infinite s, .finite .. => .infinite s
  | .finite .., .infinite t => .infinite t

end Binary64

end MarkdownIntake.Number
