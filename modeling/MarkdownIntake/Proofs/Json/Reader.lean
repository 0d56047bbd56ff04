import MarkdownIntake.Json.Reader
import MarkdownIntake.Proofs.Json.Notation
import MarkdownIntake.Proofs.Text.Blank
import MarkdownIntake.Proofs.Text.Lines

/-!
This module contains what the reader makes of texts in the notation of JSON: it reads every one of them,
whatever space there is between the parts, as the value that the text denotes.
-/

namespace MarkdownIntake.Json

open MarkdownIntake.Number MarkdownIntake.Text

/-! ### Space -/

theorem isGap_of_isSpace {space : List Char} (h : IsSpace space) : ∀ c ∈ space, isGap c = true := by
  intro c hc
  rcases h c hc with rfl | rfl | rfl | rfl <;> rfl

theorem skipGap_append {space : List Char} (h : IsSpace space) (cs : List Char) :
    skipGap (space ++ cs) = skipGap cs :=
  List.dropWhile_append_of_pos (isGap_of_isSpace h)

theorem skipGap_cons {c : Char} (h : isGap c = false) (cs : List Char) :
    skipGap (c :: cs) = c :: cs :=
  List.dropWhile_cons_of_neg (by simp [h])

section

variable {σ : Type} [Spelled σ]

theorem readValue?_skipGap (fuel : Nat) (cs : List Char) :
    (readValue? fuel (skipGap cs) : Option (Value σ × List Char)) = readValue? fuel cs := by
  have hskip : skipGap (skipGap cs) = skipGap cs := List.dropWhile_idempotent ..
  cases fuel with
  | zero => rfl
  | succ fuel => rw [readValue?, readValue?, hskip]

theorem readValue?_append (fuel : Nat) {space : List Char} (h : IsSpace space) (cs : List Char) :
    (readValue? fuel (space ++ cs) : Option (Value σ × List Char)) = readValue? fuel cs := by
  rw [← readValue?_skipGap, skipGap_append h, readValue?_skipGap]

end

/-! ### Strings -/

theorem hexValue?_of_hexDigit {c : Char} {n : Nat} (h : HexDigit c n) : hexValue? c = some n := by
  have hlower : ∀ digit ∈ "0123456789abcdef".toList.zipIdx, hexValue? digit.1 = some digit.2 := by
    decide
  have hupper : ∀ digit ∈ "0123456789ABCDEF".toList.zipIdx, hexValue? digit.1 = some digit.2 := by
    decide
  rcases h with h | h
  . exact hlower (c, n) (List.mem_zipIdx_iff_getElem?.mpr h)
  . exact hupper (c, n) (List.mem_zipIdx_iff_getElem?.mpr h)

theorem unit?_of_unitText {digits : List Char} {p : CodePoint} (h : UnitText digits p.value) :
    ∃ a b c d, digits = [a, b, c, d] ∧ unit? a b c d = some p := by
  generalize hn : p.value = n at h
  cases h with
  | @digits a b c d i j k l ha hb hc hd =>
    have hsum : i * 4096 + j * 256 + k * 16 + l = p.value := by omega
    refine ⟨a, b, c, d, rfl, ?_⟩
    simp only [unit?, hexValue?_of_hexDigit ha, hexValue?_of_hexDigit hb, hexValue?_of_hexDigit hc,
      hexValue?_of_hexDigit hd, Option.bind_eq_bind, Option.bind_some, hsum, CodePoint.ofNat?,
      dif_pos p.isLt]

theorem readPoints?_append {piece : List Char} {p : CodePoint} (h : PointDenotes piece p)
    (rest : List Char) (out : List CodePoint) :
    readPoints? (piece ++ rest) out = readPoints? rest (p :: out) := by
  cases h with
  | plain _ hquote hbackslash => simp [readPoints?, hbackslash]
  | @short letter _ h =>
    simp only [shortEscapes, List.mem_cons, Prod.mk.injEq, List.not_mem_nil, or_false] at h
    rcases h with h | h | h | h | h | h | h | h
    all_goals
      obtain ⟨rfl, rfl⟩ := h
      simp [readPoints?, simpleEscape?]
  | unit h =>
    obtain ⟨x, y, z, w, rfl, hunit⟩ := unit?_of_unitText h
    simp [readPoints?, hunit]

theorem readPoints?_of_pointsDenote {cs : List Char} {ps : List CodePoint} (h : PointsDenote cs ps)
    (rest : List Char) (out : List CodePoint) :
    readPoints? (cs ++ '"' :: rest) out = some (out.reverse ++ ps, rest) := by
  induction h generalizing out with
  | nil => simp [readPoints?]
  | cons h _ ih =>
    rw [List.append_assoc, readPoints?_append h, ih]
    simp

theorem readString?_of_stringDenotes {σ : Type} [Spelled σ] {cs : List Char} {s : σ}
    (h : StringDenotes cs s) :
    ∃ inner, cs = '"' :: inner ∧ ∀ rest, readString? (inner ++ rest) = some (s, rest) := by
  cases h with
  | quoted h hs =>
    refine ⟨_, rfl, fun rest => ?_⟩
    rw [readString?, List.append_assoc, List.singleton_append, readPoints?_of_pointsDenote h]
    simp [← hs, Spelled.ofPoints?_points]

/-! ### Numbers -/

variable {σ : Type}

theorem toList_toString (n : Nat) : (toString n).toList = Nat.toDigits 10 n := by
  rw [Nat.toString_eq_ofList_toDigits, String.toList_ofList]

theorem isDigit_of_mem_toDigits {n : Nat} : ∀ c ∈ Nat.toDigits 10 n, c.isDigit = true :=
  fun _ => Nat.isDigit_of_mem_toDigits (by decide) (by decide)

theorem digitsValue_toDigits (n : Nat) : digitsValue (Nat.toDigits 10 n) = n := by
  have h : Nat.ofDigitChars 10 (Nat.toDigits 10 n) 0 = n := Nat.ofDigitChars_ten_toDigits
  rw [Nat.ofDigitChars_eq_foldl] at h
  simpa only [digitsValue, Nat.mul_comm, Char.reduceToNat] using h

theorem splitSign_toDigits (n : Nat) : splitSign (Nat.toDigits 10 n) = (false, Nat.toDigits 10 n) := by
  have hdigits := isDigit_of_mem_toDigits (n := n)
  cases hn : Nat.toDigits 10 n with
  | nil => rfl
  | cons c cs =>
    rw [hn] at hdigits
    have hc := hdigits c List.mem_cons_self
    unfold splitSign
    split
    . next h => cases h; exact absurd hc (by decide)
    . next h => cases h; exact absurd hc (by decide)
    . rfl

theorem numberOf?_toDigits (n : Nat) : numberOf? (Nat.toDigits 10 n) = some (.int n : Value σ) := by
  have hall : (Nat.toDigits 10 n).all Char.isDigit = true :=
    List.all_eq_true.mpr isDigit_of_mem_toDigits
  simp [numberOf?, splitSign_toDigits, hall, Nat.toDigits_ne_nil, digitsValue_toDigits]

theorem numberOf?_negative (n : Nat) :
    numberOf? ('-' :: Nat.toDigits 10 n) = some (.int (-n) : Value σ) := by
  have hall : (Nat.toDigits 10 n).all Char.isDigit = true :=
    List.all_eq_true.mpr isDigit_of_mem_toDigits
  simp [numberOf?, splitSign, hall, Nat.toDigits_ne_nil, digitsValue_toDigits]

variable [Spelled σ]

def StartsNumber (c : Char) : Prop :=
  c = '-' ∨ c.isDigit = true

instance (c : Char) : Decidable (StartsNumber c) :=
  inferInstanceAs (Decidable (_ ∨ _))

theorem StartsNumber.ne {c : Char} (h : StartsNumber c) (other : Char)
    (hother : ¬ StartsNumber other) : c ≠ other := by
  rintro rfl
  exact hother h

theorem StartsNumber.isGap_eq_false {c : Char} (h : StartsNumber c) : isGap c = false := by
  simp only [isGap, Bool.or_eq_false_iff, decide_eq_false_iff_not]
  exact ⟨⟨⟨h.ne _ (by decide), h.ne _ (by decide)⟩, h.ne _ (by decide)⟩, h.ne _ (by decide)⟩

theorem readValue?_startsNumber {c : Char} (h : StartsNumber c) (fuel : Nat) (cs : List Char) :
    (readValue? (fuel + 1) (c :: cs) : Option (Value σ × List Char))
      =
    (numberOf? ((c :: cs).takeWhile isNumberChar)).map
      fun v => (v, (c :: cs).dropWhile isNumberChar) := by
  rw [readValue?, skipGap_cons h.isGap_eq_false]
  simp [h.ne '"' (by decide), h.ne '[' (by decide),
    h.ne '\x7b' (by decide), h.ne 'n' (by decide),
    h.ne 't' (by decide), h.ne 'f' (by decide)]

/-- A number goes on as long as there are characters that a number may have. -/
def EndsNumber (rest : List Char) : Prop :=
  ∀ c ∈ rest.head?, isNumberChar c = false

theorem EndsNumber.nil : EndsNumber [] := by
  rintro _ ⟨⟩

theorem EndsNumber.cons {c : Char} (h : isNumberChar c = false) (rest : List Char) :
    EndsNumber (c :: rest) := by
  rintro _ ⟨⟩
  exact h

theorem EndsNumber.append {space rest : List Char} (hspace : IsSpace space) (h : EndsNumber rest) :
    EndsNumber (space ++ rest) := by
  cases space with
  | nil => exact h
  | cons c space =>
    refine EndsNumber.cons ?_ _
    rcases hspace c List.mem_cons_self with rfl | rfl | rfl | rfl <;> rfl

theorem readValue?_number {c : Char} {cs rest : List Char} {v : Value σ}
    (hstart : StartsNumber c) (hdigits : ∀ d ∈ cs, d.isDigit = true)
    (hv : numberOf? (c :: cs) = some v) (hrest : EndsNumber rest) (fuel : Nat) :
    readValue? (fuel + 1) (c :: cs ++ rest) = some (v, rest) := by
  have hall : ∀ d ∈ c :: cs, isNumberChar d = true := by
    refine List.forall_mem_cons.mpr ⟨?_, fun d hd => by simp [isNumberChar, hdigits d hd]⟩
    rcases hstart with rfl | h
    . rfl
    . simp [isNumberChar, h]
  rw [List.cons_append, readValue?_startsNumber hstart, ← List.cons_append,
    takeWhile_append_of_head hall hrest, hv, List.dropWhile_append_of_pos hall,
    dropWhile_eq_self hrest, Option.map_some]

/-! ### Values -/

/-- The value is read off the start of a text, with no more steps than the text has characters. -/
def IsRead (cs : List Char) (v : Value σ) : Prop :=
  ∀ fuel rest, cs.length ≤ fuel → EndsNumber rest → readValue? fuel (cs ++ rest) = some (v, rest)

/-- Every value takes at least one step, since its text is not empty. -/
theorem IsRead.of_cons {c : Char} {cs : List Char} {v : Value σ}
    (h : ∀ fuel rest, cs.length ≤ fuel → EndsNumber rest →
      readValue? (fuel + 1) (c :: (cs ++ rest)) = some (v, rest)) : IsRead (c :: cs) v := by
  intro fuel rest hfuel hrest
  cases fuel with
  | zero => cases hfuel
  | succ fuel => exact h fuel rest (Nat.le_of_succ_le_succ hfuel) hrest

theorem Denotes.exists_cons {cs : List Char} {v : Value σ} (h : Denotes cs v) :
    ∃ c rest, cs = c :: rest ∧ isGap c = false ∧ c ≠ ']' ∧ c ≠ '\x7d' := by
  cases h with
  | natural n =>
    obtain ⟨c, digits, hdigits⟩ := List.exists_cons_of_ne_nil (Nat.toDigits_ne_nil (n := n) (b := 10))
    have hc : StartsNumber c :=
      .inr (isDigit_of_mem_toDigits c (hdigits ▸ List.mem_cons_self))
    rw [toList_toString, hdigits]
    exact ⟨c, digits, rfl, hc.isGap_eq_false, hc.ne _ (by decide), hc.ne _ (by decide)⟩
  | str h =>
    obtain ⟨inner, rfl, -⟩ := readString?_of_stringDenotes h
    exact ⟨_, _, rfl, rfl, by decide, by decide⟩
  | _ => exact ⟨_, _, rfl, rfl, by decide, by decide⟩

def behindItem (fuel : Nat) (out : List (Value σ)) : List Char → Option (Value σ × List Char)
  | ',' :: rest => readItems? fuel rest out
  | ']' :: rest => some (.arr out.reverse, rest)
  | _ => none

theorem readItems?_succ (fuel : Nat) (cs : List Char) (out : List (Value σ)) :
    readItems? (fuel + 1) cs out
      =
    (readValue? fuel cs).bind fun (v, rest) => behindItem fuel (v :: out) (skipGap rest) := by
  rw [readItems?]
  cases (readValue? fuel cs : Option (Value σ × List Char)) with
  | none => rfl
  | some read => rfl

section

variable {spaced : Spaced (Item σ)} {fuel : Nat}

theorem readValue?_spaced (hspace : spaced.InSpace) (h : IsRead spaced.part.text spaced.part.value)
    (hfuel : spaced.part.text.length ≤ fuel) {c : Char} (hc : isNumberChar c = false)
    (rest : List Char) :
    readValue? fuel (spaced.text Item.text ++ c :: rest)
      =
    some (spaced.part.value, spaced.after ++ c :: rest) := by
  rw [Spaced.text, List.append_assoc, readValue?_append fuel hspace.1, List.append_assoc]
  exact h fuel _ hfuel (.append hspace.2 (.cons hc rest))

theorem readItems?_spaced (hspace : spaced.InSpace)
    (h : IsRead spaced.part.text spaced.part.value) (hfuel : spaced.part.text.length ≤ fuel) {c : Char}
    (hc : isNumberChar c = false) (hgap : isGap c = false) (out : List (Value σ)) (rest : List Char) :
    readItems? (fuel + 1) (spaced.text Item.text ++ c :: rest) out
      =
    behindItem fuel (spaced.part.value :: out) (c :: rest) := by
  rw [readItems?_succ, readValue?_spaced hspace h hfuel hc, Option.bind_some]
  dsimp only
  rw [skipGap_append hspace.2, skipGap_cons hgap]

end

theorem readItems?_listText {items : List (Spaced (Item σ))} (hne : items ≠ [])
    (hspace : ∀ spaced ∈ items, spaced.InSpace)
    (h : ∀ spaced ∈ items, IsRead spaced.part.text spaced.part.value) {fuel : Nat}
    (hfuel : (listText Item.text items).length < fuel) (out : List (Value σ)) (rest : List Char) :
    readItems? fuel (listText Item.text items ++ ']' :: rest) out
      =
    some (.arr (out.reverse ++ items.map (·.part.value)), rest) := by
  induction items generalizing fuel out with
  | nil => exact absurd rfl hne
  | cons spaced items ih =>
    obtain ⟨hfirstSpace, hspaces⟩ := List.forall_mem_cons.mp hspace
    obtain ⟨hfirst, hothers⟩ := List.forall_mem_cons.mp h
    -- One step is for the item itself, which leaves enough of them for its text and for the others.
    cases fuel with
    | zero => cases hfuel
    | succ fuel =>
      cases items with
      | nil =>
        rw [listText_singleton] at hfuel ⊢
        simp only [Spaced.text, List.length_append] at hfuel
        rw [readItems?_spaced hfirstSpace hfirst (by omega) rfl rfl]
        simp [behindItem]
      | cons next items =>
        rw [listText_cons_cons] at hfuel ⊢
        simp only [Spaced.text, List.length_append, List.length_cons] at hfuel
        rw [List.append_assoc, List.cons_append,
          readItems?_spaced hfirstSpace hfirst (by omega) rfl rfl, behindItem,
          ih (List.cons_ne_nil next items) hspaces hothers (by omega)]
        simp

def behindMember (fuel : Nat) (out : List (String × Value σ)) :
    List Char → Option (Value σ × List Char)
  | ',' :: rest => readMembers? fuel rest out
  | '\x7d' :: rest => some (.obj out.reverse, rest)
  | _ => none

theorem exists_skipGap_member {σ : Type} {spaced : Spaced (Member σ)} (hspace : spaced.InSpace)
    (hname : spaced.part.IsNamed) (rest : List Char) :
    ∃ inner, skipGap (spaced.text Member.text ++ rest) = '"' :: inner
      ∧ readString? inner = some (spaced.part.name, spaced.part.beforeColon ++ ':' ::
        (spaced.part.behindColon ++ (spaced.part.item.text ++ (spaced.after ++ rest)))) := by
  obtain ⟨inner, hinner, hread⟩ := readString?_of_stringDenotes hname.name
  refine ⟨inner ++ (spaced.part.beforeColon ++ ':' ::
    (spaced.part.behindColon ++ (spaced.part.item.text ++ (spaced.after ++ rest)))), ?_, hread _⟩
  have htext : spaced.text Member.text ++ rest
      = spaced.before ++ '"' :: (inner ++ (spaced.part.beforeColon ++ ':' ::
        (spaced.part.behindColon ++ (spaced.part.item.text ++ (spaced.after ++ rest))))) := by
    simp [Spaced.text, Member.text, hinner]
  rw [htext, skipGap_append hspace.1, skipGap_cons rfl]

theorem readMembers?_spaced {spaced : Spaced (Member σ)} {fuel : Nat} (hspace : spaced.InSpace)
    (hname : spaced.part.IsNamed) (h : IsRead spaced.part.item.text spaced.part.item.value)
    (hfuel : spaced.part.item.text.length ≤ fuel) {c : Char} (hc : isNumberChar c = false)
    (hgap : isGap c = false) (out : List (String × Value σ)) (rest : List Char) :
    readMembers? (fuel + 1) (spaced.text Member.text ++ c :: rest) out
      =
    behindMember fuel (spaced.part.entry :: out) (c :: rest) := by
  obtain ⟨inner, hskip, hread⟩ := exists_skipGap_member hspace hname (c :: rest)
  have hcolon (cs : List Char) : skipGap (spaced.part.beforeColon ++ ':' :: cs) = ':' :: cs := by
    rw [skipGap_append hname.beforeColon, skipGap_cons rfl]
  have hvalue := h fuel _ hfuel (.append hspace.2 (.cons hc rest))
  rw [← readValue?_append fuel hname.behindColon] at hvalue
  have hbehind : skipGap (spaced.after ++ c :: rest) = c :: rest := by
    rw [skipGap_append hspace.2, skipGap_cons hgap]
  simp only [readMembers?, hskip, hread, hcolon, hvalue, hbehind]
  rfl

theorem readMembers?_listText {members : List (Spaced (Member σ))} (hne : members ≠ [])
    (hspace : ∀ spaced ∈ members, spaced.InSpace) (hnames : ∀ spaced ∈ members, spaced.part.IsNamed)
    (h : ∀ spaced ∈ members, IsRead spaced.part.item.text spaced.part.item.value) {fuel : Nat}
    (hfuel : (listText Member.text members).length < fuel) (out : List (String × Value σ))
    (rest : List Char) :
    readMembers? fuel (listText Member.text members ++ '\x7d' :: rest) out
      =
    some (.obj (out.reverse ++ members.map (·.part.entry)), rest) := by
  induction members generalizing fuel out with
  | nil => exact absurd rfl hne
  | cons spaced members ih =>
    obtain ⟨hfirstSpace, hspaces⟩ := List.forall_mem_cons.mp hspace
    obtain ⟨hfirstName, hothersNames⟩ := List.forall_mem_cons.mp hnames
    obtain ⟨hfirst, hothers⟩ := List.forall_mem_cons.mp h
    cases fuel with
    | zero => cases hfuel
    | succ fuel =>
      cases members with
      | nil =>
        rw [listText_singleton] at hfuel ⊢
        simp only [Spaced.text, Member.text, List.length_append, List.length_cons] at hfuel
        rw [readMembers?_spaced hfirstSpace hfirstName hfirst (by omega) rfl rfl]
        simp [behindMember]
      | cons next members =>
        rw [listText_cons_cons] at hfuel ⊢
        simp only [Spaced.text, Member.text, List.length_append, List.length_cons] at hfuel
        rw [List.append_assoc, List.cons_append,
          readMembers?_spaced hfirstSpace hfirstName hfirst (by omega) rfl rfl, behindMember,
          ih (List.cons_ne_nil next members) hspaces hothersNames hothers (by omega)]
        simp

theorem skipGap_listText_ne {α : Type} {text : α → List Char} {parts : List (Spaced α)}
    (hne : parts ≠ []) (hspace : ∀ spaced ∈ parts, spaced.InSpace) {close : Char}
    (h : ∀ spaced ∈ parts, ∃ c cs, text spaced.part = c :: cs ∧ isGap c = false ∧ c ≠ close)
    (rest inner : List Char) : skipGap (listText text parts ++ rest) ≠ close :: inner := by
  obtain ⟨spaced, parts, rfl⟩ := List.exists_cons_of_ne_nil hne
  obtain ⟨c, cs, htext, hgap, hclose⟩ := h spaced List.mem_cons_self
  have hstart : listText text (spaced :: parts)
      = spaced.before ++ c :: (cs ++ (spaced.after
        ++ (parts.map (Spaced.text text)).flatMap ([','] ++ ·))) := by
    simp [listText, joinWith, Spaced.text, htext]
  rw [hstart, List.append_assoc, skipGap_append (hspace spaced List.mem_cons_self).1,
    List.cons_append, skipGap_cons hgap]
  exact fun heq => hclose (List.cons.inj heq).1

theorem readValue?_nonemptyArr {cs : List Char} (h : ∀ inner, skipGap cs ≠ ']' :: inner)
    (fuel : Nat) :
    (readValue? (fuel + 1) ('[' :: cs) : Option (Value σ × List Char)) = readItems? fuel cs [] := by
  have hitems : (readItems? fuel (skipGap cs) [] : Option (Value σ × List Char))
      = readItems? fuel cs [] := by
    cases fuel with
    | zero => rfl
    | succ fuel => simp only [readItems?, readValue?_skipGap]
  rw [readValue?, skipGap_cons rfl]
  simpa only using hitems

theorem readValue?_nonemptyObj {cs : List Char} (h : ∀ inner, skipGap cs ≠ '\x7d' :: inner)
    (fuel : Nat) :
    (readValue? (fuel + 1) ('\x7b' :: cs) : Option (Value σ × List Char)) = readMembers? fuel cs [] := by
  have hskip : skipGap (skipGap cs) = skipGap cs := List.dropWhile_idempotent ..
  have hmembers : (readMembers? fuel (skipGap cs) [] : Option (Value σ × List Char))
      = readMembers? fuel cs [] := by
    cases fuel with
    | zero => rfl
    | succ fuel => simp only [readMembers?, hskip]
  rw [readValue?, skipGap_cons rfl]
  simpa only using hmembers

theorem isRead_of_denotes {cs : List Char} {v : Value σ} (h : Denotes cs v) : IsRead cs v := by
  -- A bracket or a brace takes one character and one step, so the steps last as long as the text does.
  induction h with
  | null =>
    change IsRead ['n', 'u', 'l', 'l'] .null
    exact .of_cons fun fuel rest _ _ => by
      rw [readValue?, skipGap_cons rfl]
      simp [readWord?]
  | yes =>
    change IsRead ['t', 'r', 'u', 'e'] (.bool true)
    exact .of_cons fun fuel rest _ _ => by
      rw [readValue?, skipGap_cons rfl]
      simp [readWord?]
  | no =>
    change IsRead ['f', 'a', 'l', 's', 'e'] (.bool false)
    exact .of_cons fun fuel rest _ _ => by
      rw [readValue?, skipGap_cons rfl]
      simp [readWord?]
  | natural n =>
    have hdigits := isDigit_of_mem_toDigits (n := n)
    have hnumber : numberOf? (Nat.toDigits 10 n) = some (.int n : Value σ) := numberOf?_toDigits n
    rw [toList_toString]
    obtain ⟨c, cs, hcs⟩ := List.exists_cons_of_ne_nil (Nat.toDigits_ne_nil (n := n) (b := 10))
    rw [hcs] at hdigits hnumber ⊢
    obtain ⟨hc, hcs⟩ := List.forall_mem_cons.mp hdigits
    exact .of_cons fun fuel rest _ hrest => readValue?_number (.inr hc) hcs hnumber hrest fuel
  | negative n =>
    rw [toList_toString]
    exact .of_cons fun fuel rest _ hrest =>
      readValue?_number (.inl rfl) isDigit_of_mem_toDigits (numberOf?_negative n) hrest fuel
  | str h =>
    obtain ⟨inner, rfl, hread⟩ := readString?_of_stringDenotes h
    exact .of_cons fun fuel rest _ _ => by
      rw [readValue?, skipGap_cons rfl]
      simp [hread]
  | emptyArr h =>
    exact .of_cons fun fuel rest _ _ => by
      rw [readValue?, skipGap_cons rfl]
      simp [skipGap_append h, skipGap_cons, isGap]
  | @arr items hne hspace h ih =>
    have hstart (spaced) (hspaced : spaced ∈ items) :
        ∃ c cs, spaced.part.text = c :: cs ∧ isGap c = false ∧ c ≠ ']' := by
      obtain ⟨c, cs, htext, hgap, hc, -⟩ := (h spaced hspaced).exists_cons
      exact ⟨c, cs, htext, hgap, hc⟩
    refine .of_cons fun fuel rest hfuel _ => ?_
    rw [List.length_append, List.length_singleton] at hfuel
    rw [List.append_assoc, List.singleton_append,
      readValue?_nonemptyArr (skipGap_listText_ne hne hspace hstart _),
      readItems?_listText hne hspace ih hfuel]
    rfl
  | emptyObj h =>
    exact .of_cons fun fuel rest _ _ => by
      rw [readValue?, skipGap_cons rfl]
      simp [skipGap_append h, skipGap_cons, isGap]
  | @obj members hne hspace hnames h ih =>
    have hstart (spaced) (hspaced : spaced ∈ members) :
        ∃ c cs, spaced.part.text = c :: cs ∧ isGap c = false ∧ c ≠ '\x7d' := by
      obtain ⟨inner, hinner, -⟩ := readString?_of_stringDenotes (hnames spaced hspaced).name
      exact ⟨'"', _, by rw [Member.text, hinner]; rfl, rfl, by decide⟩
    refine .of_cons fun fuel rest hfuel _ => ?_
    rw [List.length_append, List.length_singleton] at hfuel
    rw [List.append_assoc, List.singleton_append,
      readValue?_nonemptyObj (skipGap_listText_ne hne hspace hstart _),
      readMembers?_listText hne hspace hnames ih hfuel]
    rfl

/-! ### Whole texts -/

theorem parse?_of_textDenotes {text : String} {v : Value σ} (h : TextDenotes text.toList v) :
    Value.parse? text = some v := by
  obtain ⟨spaced, ⟨hbefore, hafter⟩, hdenotes, htext⟩ := h
  have hlength : spaced.part.text.length ≤ text.toList.length + 1 := by
    rw [htext]
    simp only [Spaced.text, List.length_append]
    omega
  have hend : EndsNumber spaced.after := by
    simpa using EndsNumber.append hafter .nil
  have hbehind : skipGap spaced.after = [] := by
    simpa [skipGap] using skipGap_append hafter []
  have hread : readValue? (text.toList.length + 1) text.toList = some (v, spaced.after) :=
    calc
      readValue? (text.toList.length + 1) text.toList
      _ = readValue? (text.toList.length + 1) (spaced.text Item.text) := by rw [← htext]
      _ = readValue? (text.toList.length + 1) (spaced.part.text ++ spaced.after) :=
        readValue?_append _ hbefore _
      _ = some (v, spaced.after) := isRead_of_denotes hdenotes _ _ hlength hend
  simp [Value.parse?, hread, hbehind]

theorem TextDenotes.unique {cs : List Char} {v w : Value σ} (hv : TextDenotes cs v)
    (hw : TextDenotes cs w) : v = w := by
  have hread {u : Value σ} (h : TextDenotes cs u) : Value.parse? (String.ofList cs) = some u :=
    parse?_of_textDenotes (by rwa [String.toList_ofList])
  exact Option.some.inj ((hread hv).symm.trans (hread hw))

end MarkdownIntake.Json
