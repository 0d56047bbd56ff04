import MarkdownIntake.Number.Literal
import MarkdownIntake.Proofs.Text.Blank
import Mathlib.Data.Nat.Digits.Defs

/-!
This module contains the notation of whole numbers as a relation between texts and digits, and that a
text is read just if it is in this notation and has no more digits than the limit. Leading zeros count as
digits, so a small number can be too long.
-/

namespace MarkdownIntake.Number

open MarkdownIntake.Text

/-! ### Notation -/

/-- Decimal digits of any script; a single underscore may stand between two of them. -/
inductive DigitRun : List Char → List Nat → Prop
  | last {c : Char} {value : Nat} (h : digitValue? c = some value) : DigitRun [c] [value]
  | next {c : Char} {value : Nat} {cs : List Char} {values : List Nat}
    (h : digitValue? c = some value) (hrest : DigitRun cs values) :
    DigitRun (c :: cs) (value :: values)
  | separated {c : Char} {value : Nat} {cs : List Char} {values : List Nat}
    (h : digitValue? c = some value) (hrest : DigitRun cs values) :
    DigitRun (c :: '_' :: cs) (value :: values)

inductive SignText : List Char → Bool → Prop
  | none : SignText [] false
  | plus : SignText ['+'] false
  | minus : SignText ['-'] true

/-- A whole number in base 10, with blanks around it: whether it has a minus, and its digits. -/
inductive IntegerLiteral : List Char → Bool → List Nat → Prop
  | padded {before sign digits after : List Char} {negative : Bool} {values : List Nat}
    (hbefore : ∀ c ∈ before, isPadding c = true) (hsign : SignText sign negative)
    (hdigits : DigitRun digits values) (hafter : ∀ c ∈ after, isPadding c = true) :
    IntegerLiteral (before ++ (sign ++ digits) ++ after) negative values

def literalValue (negative : Bool) (values : List Nat) : Int :=
  if negative then -(Nat.ofDigits 10 values.reverse : Nat) else (Nat.ofDigits 10 values.reverse : Nat)

def DenotesInteger (text : List Char) (value : Int) : Prop :=
  ∃ negative values, IntegerLiteral text negative values ∧ values.length ≤ 4300
    ∧ value = literalValue negative values

/-! ### Digits -/

def digitChar (value : Nat) : Char :=
  Char.ofNat (48 + value)

def plainDigit (c : Char) : Char :=
  match digitValue? c with
  | some value => digitChar value
  | none => c

@[simp]
theorem plainDigits_nil : plainDigits [] = [] := rfl

theorem plainDigits_cons (c : Char) (cs : List Char) :
    plainDigits (c :: cs) = plainDigit c :: plainDigits cs := rfl

theorem plainDigit_of_digitValue? {c : Char} {value : Nat} (h : digitValue? c = some value) :
    plainDigit c = digitChar value := by
  simp [plainDigit, h]

theorem exists_first_of_digitValue? {c : Char} {value : Nat} (h : digitValue? c = some value) :
    value < 10 ∧ ∃ first ∈ digitZeros, c = Char.ofNat (first + value) := by
  rw [digitValue?, Option.map_eq_some_iff] at h
  obtain ⟨first, hfound, hvalue⟩ := h
  have hrange := List.find?_some hfound
  rw [Bool.and_eq_true, decide_eq_true_eq, decide_eq_true_eq] at hrange
  refine ⟨by omega, first, List.mem_of_find?_eq_some hfound, ?_⟩
  rw [show first + value = c.toNat by omega, Char.ofNat_toNat]

theorem isPadding_of_digitValue? {c : Char} {value : Nat} (h : digitValue? c = some value) :
    isPadding c = false := by
  have hscripts : ∀ first ∈ digitZeros, ∀ value < 10,
      isPadding (Char.ofNat (first + value)) = false := by decide +kernel
  obtain ⟨hvalue, first, hfirst, rfl⟩ := exists_first_of_digitValue? h
  exact hscripts first hfirst value hvalue

theorem isDigit_digitChar {value : Nat} (h : value < 10) : (digitChar value).isDigit = true := by
  have hdigits : ∀ value < 10, (digitChar value).isDigit = true := by decide
  exact hdigits value h

theorem toNat_digitChar {value : Nat} (h : value < 10) : (digitChar value).toNat = 48 + value := by
  have hdigits : ∀ value < 10, (digitChar value).toNat = 48 + value := by decide
  exact hdigits value h

theorem digitValue?_digitChar {value : Nat} (h : value < 10) :
    digitValue? (digitChar value) = some value := by
  have hdigits : ∀ value < 10, digitValue? (digitChar value) = some value := by decide
  exact hdigits value h

theorem exists_digitChar_of_isDigit {c : Char} (h : c.isDigit = true) :
    ∃ value < 10, c = digitChar value := by
  rw [Char.isDigit, Bool.and_eq_true, decide_eq_true_eq, decide_eq_true_eq] at h
  have hlow : 48 ≤ c.toNat := h.1
  have hhigh : c.toNat ≤ 57 := h.2
  refine ⟨c.toNat - 48, by omega, ?_⟩
  rw [digitChar, show 48 + (c.toNat - 48) = c.toNat by omega, Char.ofNat_toNat]

theorem isDigit_plainDigit_iff {c : Char} :
    (plainDigit c).isDigit = true ↔ ∃ value, digitValue? c = some value := by
  constructor
  . intro h
    cases hvalue : digitValue? c with
    | some value => exact ⟨value, rfl⟩
    | none =>
      rw [plainDigit, hvalue] at h
      obtain ⟨value, hlt, rfl⟩ := exists_digitChar_of_isDigit h
      rw [digitValue?_digitChar hlt] at hvalue
      exact absurd hvalue (Option.some_ne_none value)
  . rintro ⟨value, hvalue⟩
    rw [plainDigit_of_digitValue? hvalue]
    exact isDigit_digitChar (exists_first_of_digitValue? hvalue).1

theorem digitValue?_mark {mark : Char} (h : mark ∈ ['_', '-', '+']) :
    digitValue? mark = none ∧ mark.isDigit = false := by
  simp only [List.mem_cons, List.not_mem_nil, or_false] at h
  rcases h with rfl | rfl | rfl <;> decide

theorem plainDigit_mark {mark : Char} (h : mark ∈ ['_', '-', '+']) : plainDigit mark = mark := by
  rw [plainDigit, (digitValue?_mark h).1]

theorem eq_of_plainDigit_eq_mark {c mark : Char} (hmark : mark ∈ ['_', '-', '+'])
    (h : plainDigit c = mark) : c = mark := by
  cases hc : digitValue? c with
  | none => simpa [plainDigit, hc] using h
  | some value =>
    have hdigit := isDigit_plainDigit_iff.mpr ⟨value, hc⟩
    rw [h, (digitValue?_mark hmark).2] at hdigit
    exact absurd hdigit Bool.false_ne_true

theorem plainDigit_ne_mark {c mark : Char} {value : Nat} (h : digitValue? c = some value)
    (hmark : mark ∈ ['_', '-', '+']) : plainDigit c ≠ mark := by
  intro heq
  rw [eq_of_plainDigit_eq_mark hmark heq, (digitValue?_mark hmark).1] at h
  exact absurd h (Option.some_ne_none value).symm

/-! ### Underscores -/

theorem DigitRun.exists_head {cs : List Char} {values : List Nat} (h : DigitRun cs values) :
    ∃ c rest value, cs = c :: rest ∧ digitValue? c = some value := by
  cases h with
  | last h => exact ⟨_, _, _, rfl, h⟩
  | next h => exact ⟨_, _, _, rfl, h⟩
  | separated h => exact ⟨_, _, _, rfl, h⟩

theorem DigitRun.exists_getLast {cs : List Char} {values : List Nat} (h : DigitRun cs values) :
    ∃ c value, cs.getLast? = some c ∧ digitValue? c = some value := by
  induction h with
  | last h => exact ⟨_, _, rfl, h⟩
  | next h hrest ih =>
    obtain ⟨c, value, hlast, hvalue⟩ := ih
    exact ⟨c, value, by rw [List.getLast?_cons, hlast]; rfl, hvalue⟩
  | separated h hrest ih =>
    obtain ⟨c, value, hlast, hvalue⟩ := ih
    exact ⟨c, value, by rw [List.getLast?_cons, List.getLast?_cons, hlast]; rfl, hvalue⟩

theorem DigitRun.lt {cs : List Char} {values : List Nat} (h : DigitRun cs values) :
    ∀ value ∈ values, value < 10 := by
  induction h with
  | last h => simpa using (exists_first_of_digitValue? h).1
  | next h hrest ih =>
    exact List.forall_mem_cons.mpr ⟨(exists_first_of_digitValue? h).1, ih⟩
  | separated h hrest ih =>
    exact List.forall_mem_cons.mpr ⟨(exists_first_of_digitValue? h).1, ih⟩

theorem underscoresSeparate_underscore (afterDigit : Bool) (c : Char) (cs : List Char) :
    underscoresSeparate afterDigit ('_' :: c :: cs)
      =
    (afterDigit && c.isDigit && underscoresSeparate false (c :: cs)) := rfl

theorem underscoresSeparate_of_ne {c : Char} (h : c ≠ '_') (afterDigit : Bool) (cs : List Char) :
    underscoresSeparate afterDigit (c :: cs) = underscoresSeparate c.isDigit cs := by
  rw [underscoresSeparate]
  exact h

theorem plainDigit_ne_underscore {c : Char} {value : Nat} (h : digitValue? c = some value) :
    plainDigit c ≠ '_' :=
  plainDigit_ne_mark h (by decide)

theorem underscoresSeparate_digit {c : Char} {value : Nat} (h : digitValue? c = some value)
    (afterDigit : Bool) (cs : List Char) :
    underscoresSeparate afterDigit (plainDigit c :: cs) = underscoresSeparate true cs := by
  rw [underscoresSeparate_of_ne (plainDigit_ne_underscore h), isDigit_plainDigit_iff.mpr ⟨value, h⟩]

theorem DigitRun.underscoresSeparate {cs : List Char} {values : List Nat} (h : DigitRun cs values)
    (afterDigit : Bool) : underscoresSeparate afterDigit (plainDigits cs) = true := by
  induction h generalizing afterDigit with
  | last h =>
    rw [plainDigits_cons, underscoresSeparate_digit h]
    rfl
  | next h hrest ih =>
    rw [plainDigits_cons, underscoresSeparate_digit h]
    exact ih true
  | separated h hrest ih =>
    obtain ⟨c, rest, value, rfl, hhead⟩ := hrest.exists_head
    rw [plainDigits_cons, underscoresSeparate_digit h, plainDigits_cons, plainDigit_mark (by decide),
      plainDigits_cons, underscoresSeparate_underscore, isDigit_plainDigit_iff.mpr ⟨value, hhead⟩,
      Bool.true_and, Bool.true_and]
    exact ih false

theorem DigitRun.filter_plainDigits {cs : List Char} {values : List Nat} (h : DigitRun cs values) :
    (plainDigits cs).filter (· ≠ '_') = values.map digitChar := by
  induction h with
  | last h =>
    rw [plainDigits_cons, List.filter_cons_of_pos (by simpa using plainDigit_ne_underscore h),
      plainDigit_of_digitValue? h]
    rfl
  | next h hrest ih =>
    rw [plainDigits_cons, List.filter_cons_of_pos (by simpa using plainDigit_ne_underscore h),
      plainDigit_of_digitValue? h, ih, List.map_cons]
  | separated h hrest ih =>
    rw [plainDigits_cons, List.filter_cons_of_pos (by simpa using plainDigit_ne_underscore h),
      plainDigit_of_digitValue? h, plainDigits_cons, plainDigit_mark (by decide),
      List.filter_cons_of_neg (by decide), ih, List.map_cons]

theorem digitRun_cases {cs : List Char} {afterDigit : Bool}
    (h : underscoresSeparate afterDigit (plainDigits cs) = true)
    (hdigits : ∀ c ∈ (plainDigits cs).filter (· ≠ '_'), c.isDigit = true) :
    cs = [] ∨ (∃ values, DigitRun cs values)
      ∨ afterDigit = true ∧ ∃ rest values, cs = '_' :: rest ∧ DigitRun rest values := by
  induction cs generalizing afterDigit with
  | nil => exact .inl rfl
  | cons c cs ih =>
    rw [plainDigits_cons] at h hdigits
    by_cases hunderscore : plainDigit c = '_'
    . rw [hunderscore, List.filter_cons_of_neg (by decide)] at hdigits
      rw [hunderscore] at h
      cases cs with
      | nil => simp [underscoresSeparate] at h
      | cons next cs =>
        rw [plainDigits_cons, underscoresSeparate_underscore, Bool.and_eq_true, Bool.and_eq_true] at h
        obtain ⟨⟨hafter, -⟩, hrest⟩ := h
        rcases ih hrest hdigits with hnil | ⟨values, hrun⟩ | ⟨hfalse, -⟩
        . exact absurd hnil (List.cons_ne_nil next cs)
        . have hc := eq_of_plainDigit_eq_mark (by decide) hunderscore
          exact .inr (.inr ⟨hafter, next :: cs, values, by rw [hc], hrun⟩)
        . exact absurd hfalse Bool.false_ne_true
    . rw [List.filter_cons_of_pos (by simpa using hunderscore), List.forall_mem_cons] at hdigits
      obtain ⟨value, hvalue⟩ := isDigit_plainDigit_iff.mp hdigits.1
      rw [underscoresSeparate_digit hvalue] at h
      rcases ih h hdigits.2 with rfl | ⟨values, hrun⟩ | ⟨-, rest, values, rfl, hrun⟩
      . exact .inr (.inl ⟨[value], .last hvalue⟩)
      . exact .inr (.inl ⟨value :: values, .next hvalue hrun⟩)
      . exact .inr (.inl ⟨value :: values, .separated hvalue hrun⟩)

theorem DigitRun.withoutUnderscores? {cs : List Char} {values : List Nat} (h : DigitRun cs values) :
    withoutUnderscores? (plainDigits cs) = some (values.map digitChar) := by
  rw [Number.withoutUnderscores?, if_pos (h.underscoresSeparate false), h.filter_plainDigits]

theorem exists_digitRun {cs digits : List Char}
    (h : withoutUnderscores? (plainDigits cs) = some digits) (hne : digits ≠ [])
    (hdigits : ∀ c ∈ digits, c.isDigit = true) : ∃ values, DigitRun cs values := by
  rw [withoutUnderscores?, Option.ite_none_right_eq_some, Option.some.injEq] at h
  obtain ⟨hseparate, rfl⟩ := h
  rcases digitRun_cases hseparate hdigits with rfl | hrun | ⟨hfalse, -⟩
  . exact absurd rfl hne
  . exact hrun
  . exact absurd hfalse Bool.false_ne_true

theorem digitsValue_map_digitChar {values : List Nat} (h : ∀ value ∈ values, value < 10) :
    digitsValue (values.map digitChar) = Nat.ofDigits 10 values.reverse := by
  rw [digitsValue, List.foldl_map, Nat.ofDigits_eq_foldr, List.foldr_reverse]
  apply List.foldl_ext
  intro sum value hvalue
  rw [toNat_digitChar (h value hvalue), Nat.cast_id]
  omega

/-! ### Signs -/

theorem splitSign_of_ne {c : Char} (hminus : c ≠ '-') (hplus : c ≠ '+') (cs : List Char) :
    splitSign (c :: cs) = (false, c :: cs) := by
  rw [splitSign]
  . exact fun rest heq => hminus (List.cons.inj heq).1
  . exact fun rest heq => hplus (List.cons.inj heq).1

theorem SignText.splitSign {sign cs : List Char} {negative : Bool} {values : List Nat}
    (h : SignText sign negative) (hrun : DigitRun cs values) :
    splitSign (plainDigits (sign ++ cs)) = (negative, plainDigits cs) := by
  cases h with
  | none =>
    obtain ⟨c, rest, value, rfl, hvalue⟩ := hrun.exists_head
    exact splitSign_of_ne (plainDigit_ne_mark hvalue (by decide))
      (plainDigit_ne_mark hvalue (by decide)) (plainDigits rest)
  | plus =>
    rw [List.singleton_append, plainDigits_cons, plainDigit_mark (by decide)]
    rfl
  | minus =>
    rw [List.singleton_append, plainDigits_cons, plainDigit_mark (by decide)]
    rfl

theorem exists_signText (cs : List Char) :
    ∃ sign rest negative, cs = sign ++ rest ∧ SignText sign negative
      ∧ splitSign (plainDigits cs) = (negative, plainDigits rest) := by
  cases cs with
  | nil => exact ⟨[], [], false, rfl, .none, rfl⟩
  | cons c cs =>
    by_cases hminus : plainDigit c = '-'
    . obtain rfl := eq_of_plainDigit_eq_mark (by decide) hminus
      exact ⟨['-'], cs, true, rfl, .minus, by rw [plainDigits_cons, hminus]; rfl⟩
    . by_cases hplus : plainDigit c = '+'
      . obtain rfl := eq_of_plainDigit_eq_mark (by decide) hplus
        exact ⟨['+'], cs, false, rfl, .plus, by rw [plainDigits_cons, hplus]; rfl⟩
      . exact ⟨[], c :: cs, false, rfl, .none, splitSign_of_ne hminus hplus (plainDigits cs)⟩

/-! ### Reading -/

theorem SignText.isPadding_head {sign cs : List Char} {negative : Bool} {values : List Nat}
    (h : SignText sign negative) (hrun : DigitRun cs values) :
    ∀ c ∈ (sign ++ cs).head?, isPadding c = false := by
  cases h with
  | none =>
    obtain ⟨c, rest, value, rfl, hvalue⟩ := hrun.exists_head
    simpa using isPadding_of_digitValue? hvalue
  | plus => simp; decide
  | minus => simp; decide

theorem DigitRun.isPadding_getLast {cs : List Char} {values : List Nat} (h : DigitRun cs values)
    (sign : List Char) : ∀ c ∈ (sign ++ cs).getLast?, isPadding c = false := by
  obtain ⟨c, value, hlast, hvalue⟩ := h.exists_getLast
  rw [List.getLast?_append, hlast]
  simpa using isPadding_of_digitValue? hvalue

theorem readInteger_of_integerLiteral {text : String} {negative : Bool} {values : List Nat}
    (h : IntegerLiteral text.toList negative values) :
    readInteger text
      =
    if maxDigits < values.length then .error (.tooManyDigits values.length)
    else .ok (literalValue negative values) := by
  generalize hcs : text.toList = cs at h
  cases h with
  | padded hbefore hsign hrun hafter =>
    have hstrip := stripWhile_append hbefore (hsign.isPadding_head hrun) (hrun.isPadding_getLast _)
      hafter
    have hdigits : (values.map digitChar).all Char.isDigit = true := by
      rw [List.all_map, List.all_eq_true]
      exact fun value hvalue => isDigit_digitChar (hrun.lt value hvalue)
    have hnonempty : (values.map digitChar).isEmpty = false := by
      cases hrun <;> rfl
    simp only [readInteger, hcs, hstrip, hsign.splitSign hrun, hrun.withoutUnderscores?, hdigits,
      hnonempty, Bool.not_true, Bool.or_self, Bool.false_eq_true, if_false, List.length_map,
      digitsValue_map_digitChar hrun.lt, literalValue]

theorem exists_integerLiteral {text : String} {value : Int} (h : readInteger text = .ok value) :
    ∃ negative values, IntegerLiteral text.toList negative values := by
  obtain ⟨before, after, htext, hbefore, hafter⟩ :=
    exists_eq_stripWhile_append isPadding text.toList
  obtain ⟨sign, rest, negative, hcore, hsign, hsplit⟩ :=
    exists_signText (stripWhile isPadding text.toList)
  simp only [readInteger, hsplit] at h
  cases hdigits : withoutUnderscores? (plainDigits rest) with
  | none => simp [hdigits] at h
  | some digits =>
    simp only [hdigits] at h
    split at h
    . simp at h
    . next haccepted =>
      rw [Bool.or_eq_true, not_or, List.isEmpty_iff, Bool.not_eq_true, Bool.not_eq_false',
        List.all_eq_true] at haccepted
      obtain ⟨values, hrun⟩ := exists_digitRun hdigits haccepted.1 haccepted.2
      rw [hcore] at htext
      exact ⟨negative, values, htext ▸ .padded hbefore hsign hrun hafter⟩

theorem readInteger_eq_ok_iff {text : String} {value : Int} :
    readInteger text = .ok value ↔ DenotesInteger text.toList value := by
  constructor
  . intro h
    obtain ⟨negative, values, hliteral⟩ := exists_integerLiteral h
    rw [readInteger_of_integerLiteral hliteral] at h
    split at h
    . simp at h
    . next hlength =>
      rw [Except.ok.injEq] at h
      exact ⟨negative, values, hliteral, Nat.le_of_not_lt hlength, h.symm⟩
  . rintro ⟨negative, values, hliteral, hlength, rfl⟩
    rw [readInteger_of_integerLiteral hliteral, if_neg]
    exact Nat.not_lt.mpr hlength

theorem DenotesInteger.isTellable {text : List Char} {value : Int} (h : DenotesInteger text value) :
    isTellable value = true := by
  obtain ⟨negative, values, ⟨-, -, hdigits, -⟩, hlength, rfl⟩ := h
  have hlt : Nat.ofDigits 10 values.reverse < 10 ^ values.reverse.length :=
    Nat.ofDigits_lt_base_pow_length (by decide) fun value hvalue =>
      hdigits.lt value (List.mem_reverse.mp hvalue)
  have hle : 10 ^ values.reverse.length ≤ leastUntellable :=
    Binary64.tenPow_le_tenPow (by rwa [List.length_reverse])
  have habs : (literalValue negative values).natAbs = Nat.ofDigits 10 values.reverse := by
    cases negative
    . exact Int.natAbs_natCast _
    . exact (Int.natAbs_neg _).trans (Int.natAbs_natCast _)
  rw [Number.isTellable, decide_eq_true_eq, habs]
  exact Nat.lt_of_lt_of_le hlt hle

end MarkdownIntake.Number
