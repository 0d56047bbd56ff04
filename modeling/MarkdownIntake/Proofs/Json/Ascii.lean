import MarkdownIntake.Proofs.Json.Notation
import MarkdownIntake.Proofs.Json.Reader

/-!
This module contains which characters the text of a JSON value has: in a style for ASCII only they are
printable ASCII characters and the line feeds between the parts, whatever the strings hold.
-/

namespace MarkdownIntake.Json

open MarkdownIntake.Text

variable {σ : Type} [Spelled σ]

def IsPlain (c : Char) : Prop :=
  c = '\n' ∨ 32 ≤ c.toNat ∧ c.toNat ≤ 126

instance (c : Char) : Decidable (IsPlain c) :=
  inferInstanceAs (Decidable (_ ∨ _))

def AllPlain (cs : List Char) : Prop :=
  ∀ c ∈ cs, IsPlain c

@[simp]
theorem allPlain_nil : AllPlain [] :=
  List.forall_mem_nil IsPlain

@[simp]
theorem allPlain_cons_iff {c : Char} {cs : List Char} : AllPlain (c :: cs) ↔ IsPlain c ∧ AllPlain cs :=
  List.forall_mem_cons

@[simp]
theorem allPlain_append_iff {cs ds : List Char} : AllPlain (cs ++ ds) ↔ AllPlain cs ∧ AllPlain ds :=
  List.forall_mem_append

instance (cs : List Char) : Decidable (AllPlain cs) :=
  List.decidableBAll IsPlain cs

/-! ### Strings -/

theorem isPlain_hexDigit (n : Nat) : IsPlain (hexDigit (n % 16)) := by
  have hall : ∀ digit < 16, IsPlain (hexDigit digit) := by decide
  exact hall (n % 16) (Nat.mod_lt n (by decide))

theorem allPlain_unitEscape (n : Nat) : AllPlain (unitEscape n) := by
  have hbackslash : IsPlain '\\' := by decide
  have hletter : IsPlain 'u' := by decide
  simp [unitEscape, hbackslash, hletter, isPlain_hexDigit]

theorem allPlain_codeEscape (c : Char) : AllPlain (codeEscape c) := by
  unfold codeEscape
  dsimp only
  split
  . exact allPlain_unitEscape c.toNat
  . exact allPlain_append_iff.mpr ⟨allPlain_unitEscape _, allPlain_unitEscape _⟩

section

variable {style : Style} (hascii : style.asciiOnly = true)

include hascii

theorem allPlain_charText (c : Char) : AllPlain (charText style c) := by
  unfold charText
  split_ifs with hquote hbackslash hfeed hreturn htab hform hback hcontrol hcode
  . decide
  . decide
  . decide
  . decide
  . decide
  . decide
  . decide
  . exact allPlain_codeEscape c
  . exact allPlain_codeEscape c
  . simp only [hascii, Bool.true_and, decide_eq_true_eq, Nat.not_lt] at hcode
    exact List.forall_mem_singleton.mpr (.inr ⟨Nat.le_of_not_lt hcontrol, hcode⟩)

theorem allPlain_pointText (p : CodePoint) : AllPlain (pointText style p) := by
  unfold pointText
  split
  . exact allPlain_charText hascii _
  . exact allPlain_unitEscape p.value

theorem allPlain_stringText (s : σ) : AllPlain (stringText style s) := by
  have hquote : IsPlain '"' := by decide
  have hpoints : AllPlain ((Spelled.points s).flatMap (pointText style)) := by
    intro c hc
    obtain ⟨p, -, hc⟩ := List.mem_flatMap.mp hc
    exact allPlain_pointText hascii p c hc
  simp [stringText, hquote, hpoints]

end

/-! ### Values -/

theorem allPlain_lineBreak (style : Style) (depth : Nat) : AllPlain (style.lineBreak depth) := by
  unfold Style.lineBreak
  split
  . exact allPlain_nil
  . refine allPlain_cons_iff.mpr ⟨.inl rfl, ?_⟩
    intro c hc
    rw [List.eq_of_mem_replicate hc]
    decide

theorem allPlain_separator (style : Style) (depth : Nat) : AllPlain (style.separator depth) := by
  unfold Style.separator
  split
  . decide
  . exact allPlain_cons_iff.mpr ⟨by decide, allPlain_lineBreak style depth⟩

theorem allPlain_toString (n : Nat) : AllPlain (toString n).toList := by
  rw [toList_toString]
  intro c hc
  obtain ⟨hleast, hmost⟩ := Char.isDigit_iff_toNat.mp (isDigit_of_mem_toDigits c hc)
  simp only [Char.reduceToNat] at hleast hmost
  exact .inr ⟨by omega, by omega⟩

theorem allPlain_itemsText {style : Style} {depth : Nat} {vs : List (Value σ)}
    (h : ∀ v ∈ vs, AllPlain (valueText style depth v)) : AllPlain (itemsText style depth vs) := by
  induction vs with
  | nil => exact allPlain_nil
  | cons v vs ih =>
    obtain ⟨hv, hvs⟩ := List.forall_mem_cons.mp h
    simp [itemsText, allPlain_separator, hv, ih hvs]

section

variable {style : Style} (hascii : style.asciiOnly = true)

include hascii

theorem allPlain_membersText {depth : Nat} {members : List (String × Value σ)}
    (h : ∀ member ∈ members, AllPlain (valueText style depth member.2)) :
    AllPlain (membersText style depth members) := by
  have hcolon : IsPlain ':' ∧ IsPlain ' ' := by decide
  induction members with
  | nil => exact allPlain_nil
  | cons member members ih =>
    obtain ⟨hmember, hmembers⟩ := List.forall_mem_cons.mp h
    simp [membersText, allPlain_separator, allPlain_stringText hascii, hcolon, hmember, ih hmembers]

theorem allPlain_valueText {v : Value σ} (h : v.IsWhole) (depth : Nat) :
    AllPlain (valueText style depth v) := by
  induction h generalizing depth with
  | null =>
    rw [valueText]
    decide
  | bool b => cases b <;> (rw [valueText]; decide)
  | int n =>
    cases n with
    | ofNat n => exact allPlain_toString n
    | negSucc n =>
      rw [valueText, toList_toString_negSucc]
      exact allPlain_cons_iff.mpr ⟨by decide, allPlain_toString (n + 1)⟩
  | str s => exact allPlain_stringText hascii s
  | @arr vs _ ih =>
    have hbrackets : IsPlain '[' ∧ IsPlain ']' := by decide
    cases vs with
    | nil => simp [valueText, hbrackets]
    | cons v vs =>
      obtain ⟨hv, hvs⟩ := List.forall_mem_cons.mp ih
      have hitems := allPlain_itemsText fun w hw => hvs w hw (depth + 1)
      simp [valueText, hbrackets, allPlain_lineBreak, hv (depth + 1), hitems]
  | @obj members _ ih =>
    have hbraces : IsPlain '\x7b' ∧ IsPlain '\x7d' := by decide
    have hcolon : IsPlain ':' ∧ IsPlain ' ' := by decide
    cases members with
    | nil => simp [valueText, hbraces]
    | cons member members =>
      obtain ⟨hmember, hmembers⟩ := List.forall_mem_cons.mp ih
      have hothers := allPlain_membersText hascii fun other hother => hmembers other hother (depth + 1)
      simp [valueText, hbraces, hcolon, allPlain_lineBreak, allPlain_stringText hascii,
        hmember (depth + 1), hothers]

theorem allPlain_render {v : Value σ} (h : v.IsWhole) : AllPlain (v.render style).toList := by
  rw [Value.render, String.toList_ofList]
  exact allPlain_valueText hascii h 0

end

end MarkdownIntake.Json
