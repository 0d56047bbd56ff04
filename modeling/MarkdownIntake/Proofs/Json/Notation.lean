import MarkdownIntake.Json.Printer
import MarkdownIntake.Proofs.Json.Pairs
import MarkdownIntake.Text.Lines
import Mathlib.Tactic.SplitIfs

/-!
This module contains the notation of JSON as a relation between texts and values, for all values without
fractions, and that every style prints a value in this notation, with surrogates joined to pairs.
-/

namespace MarkdownIntake.Json

open MarkdownIntake.Text

def IsSpace (cs : List Char) : Prop :=
  ∀ c ∈ cs, c = ' ' ∨ c = '\t' ∨ c = '\n' ∨ c = '\r'

def HexDigit (c : Char) (n : Nat) : Prop :=
  "0123456789abcdef".toList[n]? = some c ∨ "0123456789ABCDEF".toList[n]? = some c

inductive UnitText : List Char → Nat → Prop
  | digits {a b c d : Char} {i j k l : Nat} (ha : HexDigit a i) (hb : HexDigit b j)
    (hc : HexDigit c k) (hd : HexDigit d l) :
    UnitText [a, b, c, d] (((i * 16 + j) * 16 + k) * 16 + l)

def shortEscapes : List (Char × Char) :=
  [('"', '"'), ('\\', '\\'), ('/', '/'), ('b', '\x08'), ('f', '\x0c'), ('n', '\n'), ('r', '\r'),
    ('t', '\t')]

/-- One code point of a string: as it is, behind a backslash, or by its number. -/
inductive PointDenotes : List Char → CodePoint → Prop
  | plain {c : Char} (hcontrol : 32 ≤ c.toNat) (hquote : c ≠ '"') (hbackslash : c ≠ '\\') :
    PointDenotes [c] (.ofChar c)
  | short {letter c : Char} (h : (letter, c) ∈ shortEscapes) : PointDenotes ['\\', letter] (.ofChar c)
  | unit {digits : List Char} {p : CodePoint} (h : UnitText digits p.value) :
    PointDenotes ('\\' :: 'u' :: digits) p

inductive PointsDenote : List Char → List CodePoint → Prop
  | nil : PointsDenote [] []
  | cons {piece rest : List Char} {p : CodePoint} {ps : List CodePoint} (h : PointDenotes piece p)
    (hrest : PointsDenote rest ps) : PointsDenote (piece ++ rest) (p :: ps)

/-- A string with its quotes. A pair of surrogates in it is the code point that it stands for. -/
inductive StringDenotes {σ : Type} [Spelled σ] : List Char → σ → Prop
  | quoted {cs : List Char} {units : List CodePoint} {s : σ} (h : PointsDenote cs units)
    (hs : Spelled.points s = joinPairs units) : StringDenotes ('"' :: (cs ++ ['"'])) s

structure Spaced (α : Type) where
  before : List Char
  part : α
  after : List Char

variable {α : Type}

def Spaced.InSpace (spaced : Spaced α) : Prop :=
  IsSpace spaced.before ∧ IsSpace spaced.after

def Spaced.text (text : α → List Char) (spaced : Spaced α) : List Char :=
  spaced.before ++ (text spaced.part ++ spaced.after)

def listText (text : α → List Char) (parts : List (Spaced α)) : List Char :=
  joinWith [','] (parts.map (Spaced.text text))

theorem listText_singleton {text : α → List Char} (spaced : Spaced α) :
    listText text [spaced] = spaced.text text := by
  simp [listText, joinWith]

theorem listText_cons_cons {text : α → List Char} (spaced next : Spaced α) (rest : List (Spaced α)) :
    listText text (spaced :: next :: rest)
      =
    spaced.text text ++ ',' :: listText text (next :: rest) := by
  simp [listText, joinWith]

structure Item (σ : Type) where
  text : List Char
  value : Value σ

structure Member (σ : Type) where
  nameText : List Char
  name : String
  beforeColon : List Char
  behindColon : List Char
  item : Item σ

variable {σ : Type}

def Member.text (member : Member σ) : List Char :=
  member.nameText ++ (member.beforeColon ++ ':' :: (member.behindColon ++ member.item.text))

structure Member.IsNamed (member : Member σ) : Prop where
  name : StringDenotes member.nameText member.name
  beforeColon : IsSpace member.beforeColon
  behindColon : IsSpace member.behindColon

def Member.entry (member : Member σ) : String × Value σ :=
  (member.name, member.item.value)

/-- The texts of a value, with any space between its parts. -/
inductive Denotes [Spelled σ] : List Char → Value σ → Prop
  | null : Denotes "null".toList .null
  | yes : Denotes "true".toList (.bool true)
  | no : Denotes "false".toList (.bool false)
  | natural (n : Nat) : Denotes (toString n).toList (.int n)
  | negative (n : Nat) : Denotes ('-' :: (toString n).toList) (.int (-n))
  | str {cs : List Char} {s : σ} (h : StringDenotes cs s) : Denotes cs (.str s)
  | emptyArr {space : List Char} (h : IsSpace space) : Denotes ('[' :: (space ++ [']'])) (.arr [])
  | arr {items : List (Spaced (Item σ))} (hne : items ≠ []) (hspace : ∀ spaced ∈ items, spaced.InSpace)
    (h : ∀ spaced ∈ items, Denotes spaced.part.text spaced.part.value) :
    Denotes ('[' :: (listText Item.text items ++ [']'])) (.arr (items.map (·.part.value)))
  | emptyObj {space : List Char} (h : IsSpace space) :
    Denotes ('\x7b' :: (space ++ ['\x7d'])) (.obj [])
  | obj {members : List (Spaced (Member σ))} (hne : members ≠ [])
    (hspace : ∀ spaced ∈ members, spaced.InSpace) (hnames : ∀ spaced ∈ members, spaced.part.IsNamed)
    (h : ∀ spaced ∈ members, Denotes spaced.part.item.text spaced.part.item.value) :
    Denotes ('\x7b' :: (listText Member.text members ++ ['\x7d']))
      (.obj (members.map (·.part.entry)))

def TextDenotes [Spelled σ] (cs : List Char) (v : Value σ) : Prop :=
  ∃ spaced : Spaced (Item σ), spaced.InSpace ∧ Denotes spaced.part.text v
    ∧ cs = spaced.text Item.text

/-! ### The printer -/

/-- Without numbers that have a fraction or an exponent. -/
inductive Value.IsWhole : Value σ → Prop
  | null : IsWhole .null
  | bool (b : Bool) : IsWhole (.bool b)
  | int (n : Int) : IsWhole (.int n)
  | str (s : σ) : IsWhole (.str s)
  | arr {items : List (Value σ)} (h : ∀ v ∈ items, v.IsWhole) : IsWhole (.arr items)
  | obj {members : List (String × Value σ)} (h : ∀ member ∈ members, member.2.IsWhole) :
    IsWhole (.obj members)

attribute [simp] Value.IsWhole.null Value.IsWhole.bool Value.IsWhole.int Value.IsWhole.str

@[simp]
theorem Value.isWhole_arr_iff {items : List (Value σ)} :
    (Value.arr items).IsWhole ↔ ∀ v ∈ items, v.IsWhole :=
  ⟨fun h => by cases h with | arr h => exact h, .arr⟩

@[simp]
theorem Value.isWhole_obj_iff {members : List (String × Value σ)} :
    (Value.obj members).IsWhole ↔ ∀ member ∈ members, member.2.IsWhole :=
  ⟨fun h => by cases h with | obj h => exact h, .obj⟩

theorem hexDigit_hexDigit {n : Nat} (h : n < 16) : HexDigit (hexDigit n) n := by
  have hall : ∀ n < 16, "0123456789abcdef".toList[n]? = some (hexDigit n) := by decide
  exact .inl (hall n h)

theorem unitText_unitEscape {n : Nat} (h : n < 0x10000) :
    ∃ digits, unitEscape n = '\\' :: 'u' :: digits ∧ UnitText digits n := by
  refine ⟨_, rfl, ?_⟩
  have hdigit (k : Nat) : HexDigit (hexDigit (k % 16)) (k % 16) :=
    hexDigit_hexDigit (Nat.mod_lt k (by decide))
  have htext := UnitText.digits (hdigit (n / 4096)) (hdigit (n / 256)) (hdigit (n / 16)) (hdigit n)
  have hsum : ((n / 4096 % 16 * 16 + n / 256 % 16) * 16 + n / 16 % 16) * 16 + n % 16 = n := by omega
  rwa [hsum] at htext

theorem pointDenotes_unitEscape {p : CodePoint} (h : p.value < 0x10000) :
    PointDenotes (unitEscape p.value) p := by
  obtain ⟨digits, htext, hdigits⟩ := unitText_unitEscape h
  rw [htext]
  exact .unit hdigits

/-- What a piece of a printed string denotes: a code point, or the two surrogates that stand for it. -/
inductive PieceDenotes (piece : List Char) (p : CodePoint) : Prop
  | whole (h : PointDenotes piece p)
  | halves {high low : CodePoint} {first second : List Char} (hpiece : piece = first ++ second)
    (hfirst : PointDenotes first high) (hsecond : PointDenotes second low)
    (hhigh : high.isHigh = true) (hlow : low.isLow = true) (hp : p = .ofPair high low)

theorem pieceDenotes_codeEscape (c : Char) : PieceDenotes (codeEscape c) (.ofChar c) := by
  unfold codeEscape
  dsimp only
  split
  . next h => exact .whole (pointDenotes_unitEscape (p := .ofChar c) h)
  . next h =>
    have hcode := CodePoint.toNat_cases c
    obtain ⟨high, hhigh⟩ : ∃ p : CodePoint, p.value = 0xD800 + (c.toNat - 0x10000) / 1024 :=
      ⟨⟨_, by omega⟩, rfl⟩
    obtain ⟨low, hlow⟩ : ∃ p : CodePoint, p.value = 0xDC00 + (c.toNat - 0x10000) % 1024 :=
      ⟨⟨_, by omega⟩, rfl⟩
    have hp : CodePoint.ofChar c = .ofPair high low := by
      rw [CodePoint.ofChar, CodePoint.ofPair, CodePoint.mk.injEq]
      omega
    rw [← hhigh, ← hlow]
    exact .halves rfl (pointDenotes_unitEscape (by omega)) (pointDenotes_unitEscape (by omega))
      (CodePoint.isHigh_iff.mpr (by omega)) (CodePoint.isLow_iff.mpr (by omega)) hp

theorem pieceDenotes_charText (style : Style) (c : Char) :
    PieceDenotes (charText style c) (.ofChar c) := by
  have hshort {letter : Char} (h : (letter, c) ∈ shortEscapes) :
      PieceDenotes ['\\', letter] (.ofChar c) :=
    .whole (.short h)
  unfold charText
  split_ifs with hquote hbackslash hfeed hreturn htab hform hback hcontrol hcode
  . subst hquote
    exact hshort (by decide)
  . subst hbackslash
    exact hshort (by decide)
  . subst hfeed
    exact hshort (by decide)
  . subst hreturn
    exact hshort (by decide)
  . subst htab
    exact hshort (by decide)
  . subst hform
    exact hshort (by decide)
  . subst hback
    exact hshort (by decide)
  . exact pieceDenotes_codeEscape c
  . exact pieceDenotes_codeEscape c
  . exact .whole (.plain (Nat.le_of_not_lt hcontrol) hquote hbackslash)

theorem pieceDenotes_pointText (style : Style) (p : CodePoint) : PieceDenotes (pointText style p) p := by
  unfold pointText
  split
  . next c hc =>
    rw [CodePoint.eq_ofChar_of_char? hc]
    exact pieceDenotes_charText style c
  . next hnone => exact .whole (pointDenotes_unitEscape (CodePoint.lt_of_char?_eq_none hnone))

theorem exists_pointsDenote (style : Style) (ps : List CodePoint) :
    ∃ units, Halved units ps ∧ PointsDenote (ps.flatMap (pointText style)) units := by
  induction ps with
  | nil => exact ⟨[], .nil, .nil⟩
  | cons p ps ih =>
    obtain ⟨units, hunits, hdenote⟩ := ih
    rw [List.flatMap_cons]
    cases pieceDenotes_pointText style p with
    | whole h => exact ⟨p :: units, .whole p hunits, .cons h hdenote⟩
    | @halves high low _ _ hpiece hfirst hsecond hhigh hlow hp =>
      rw [hpiece, hp, List.append_assoc]
      exact ⟨high :: low :: units, .pair hhigh hlow hunits, .cons hfirst (.cons hsecond hdenote)⟩

variable [Spelled σ]

theorem stringDenotes_stringText (style : Style) (s : σ) :
    StringDenotes (stringText style s) (Spelled.joined s) := by
  obtain ⟨units, hunits, hdenote⟩ := exists_pointsDenote style (Spelled.points s)
  exact .quoted hdenote (by rw [Spelled.points_joined, joinPairs_of_halved hunits])

theorem isSpace_lineBreak (style : Style) (depth : Nat) : IsSpace (style.lineBreak depth) := by
  unfold Style.lineBreak
  split
  . exact List.forall_mem_nil _
  . intro c hc
    rcases List.mem_cons.mp hc with rfl | hc
    . exact .inr (.inr (.inl rfl))
    . exact .inl (List.eq_of_mem_replicate hc)

theorem exists_separator_eq (style : Style) (depth : Nat) :
    ∃ space, style.separator depth = ',' :: space ∧ IsSpace space := by
  unfold Style.separator
  split
  . exact ⟨_, rfl, fun c hc => .inl (List.mem_singleton.mp hc)⟩
  . exact ⟨_, rfl, isSpace_lineBreak style depth⟩

/-- The space in front of the first part comes in from outside, and so does that behind the last one. -/
theorem exists_spaced {β : Type} (style : Style) (depth : Nat) (text : α → List Char) (part : β → α)
    (x : β) (xs : List β) {before after : List Char} (hbefore : IsSpace before)
    (hafter : IsSpace after) :
    ∃ parts : List (Spaced α), parts.map (·.part) = (x :: xs).map part
      ∧ (∀ spaced ∈ parts, spaced.InSpace)
      ∧ listText text parts
        = before ++ (text (part x)
          ++ ((xs.flatMap fun y => style.separator depth ++ text (part y)) ++ after)) := by
  -- A separator is a comma and the space in front of the next part, so the induction passes this space on.
  induction xs generalizing x before with
  | nil =>
    refine ⟨[⟨before, part x, after⟩], rfl, List.forall_mem_singleton.mpr ⟨hbefore, hafter⟩, ?_⟩
    simp [listText_singleton, Spaced.text]
  | cons y xs ih =>
    obtain ⟨space, hseparator, hspace⟩ := exists_separator_eq style depth
    obtain ⟨parts, hparts, hspaces, htext⟩ := ih y hspace
    refine ⟨⟨before, part x, []⟩ :: parts, by rw [List.map_cons, hparts]; rfl, ?_, ?_⟩
    . exact List.forall_mem_cons.mpr ⟨⟨hbefore, List.forall_mem_nil _⟩, hspaces⟩
    . obtain ⟨next, rest, rfl, -, -⟩ := List.map_eq_cons_iff.mp hparts
      rw [listText_cons_cons, htext]
      simp [Spaced.text, hseparator]

section

variable {β : Type} {parts : List (Spaced α)} {part : β → α} {x : β} {xs : List β}

theorem ne_nil_of_map_part (h : parts.map (·.part) = (x :: xs).map part) : parts ≠ [] := by
  rintro rfl
  cases h

theorem forall_part {p : α → Prop} (h : parts.map (·.part) = xs.map part)
    (hp : ∀ y ∈ xs, p (part y)) : ∀ spaced ∈ parts, p spaced.part := by
  rw [← List.forall_mem_map, ← h] at hp
  exact List.forall_mem_map.mp hp

theorem map_of_map_part {γ : Type} (f : α → γ) (h : parts.map (·.part) = xs.map part) :
    (parts.map fun spaced => f spaced.part) = xs.map fun y => f (part y) := by
  simpa [Function.comp_def] using congrArg (List.map f) h

end

theorem itemsText_eq (style : Style) (depth : Nat) (vs : List (Value σ)) :
    itemsText style depth vs
      =
    vs.flatMap fun v => style.separator depth ++ valueText style depth v := by
  induction vs with
  | nil => rfl
  | cons v vs ih => rw [itemsText, ih, List.flatMap_cons]

def printedItem (style : Style) (depth : Nat) (v : Value σ) : Item σ where
  text := valueText style depth v
  value := v.map Spelled.joined

def printedMember (style : Style) (depth : Nat) (member : String × Value σ) : Member σ where
  nameText := stringText style member.1
  name := member.1
  beforeColon := []
  behindColon := [' ']
  item := printedItem style depth member.2

theorem isNamed_printedMember (style : Style) (depth : Nat) (member : String × Value σ) :
    (printedMember style depth member).IsNamed where
  name := by
    have h := stringDenotes_stringText style member.1
    rwa [Spelled.joined_string] at h
  beforeColon := List.forall_mem_nil _
  behindColon := fun _ hc => .inl (List.mem_singleton.mp hc)

theorem membersText_eq (style : Style) (depth : Nat) (members : List (String × Value σ)) :
    membersText style depth members
      =
    members.flatMap fun member => style.separator depth ++ (printedMember style depth member).text := by
  induction members with
  | nil => rfl
  | cons member members ih =>
    rw [membersText, ih, List.flatMap_cons]
    simp [Member.text, printedMember, printedItem]

theorem toList_toString_negSucc (n : Nat) :
    (toString (Int.negSucc n)).toList = '-' :: (toString (n + 1)).toList := by
  rw [show toString (Int.negSucc n) = "-" ++ toString (n + 1) from rfl, String.toList_append]
  rfl

theorem denotes_valueText {v : Value σ} (h : v.IsWhole) (style : Style) (depth : Nat) :
    Denotes (valueText style depth v) (v.map Spelled.joined) := by
  induction h generalizing depth with
  | null => exact .null
  | bool b =>
    cases b with
    | false => exact .no
    | true => exact .yes
  | int n =>
    cases n with
    | ofNat n => exact .natural n
    | negSucc n =>
      rw [valueText, toList_toString_negSucc]
      exact .negative (n + 1)
  | str s => exact .str (stringDenotes_stringText style s)
  | @arr vs _ ih =>
    cases vs with
    | nil => exact .emptyArr (List.forall_mem_nil _)
    | cons v vs =>
      obtain ⟨items, hitems, hspaces, htext⟩ :=
        exists_spaced style (depth + 1) Item.text (printedItem style (depth + 1)) v vs
          (isSpace_lineBreak style (depth + 1)) (isSpace_lineBreak style depth)
      have hdenotes := forall_part (p := fun item => Denotes item.text item.value) hitems
        fun w hw => ih w hw (depth + 1)
      have h := Denotes.arr (ne_nil_of_map_part hitems) hspaces hdenotes
      rw [htext, map_of_map_part Item.value hitems] at h
      simpa [valueText, itemsText_eq, printedItem, Value.map, Value.mapItems_eq_map] using h
  | @obj entries _ ih =>
    cases entries with
    | nil => exact .emptyObj (List.forall_mem_nil _)
    | cons entry entries =>
      obtain ⟨members, hmembers, hspaces, htext⟩ :=
        exists_spaced style (depth + 1) Member.text (printedMember style (depth + 1)) entry entries
          (isSpace_lineBreak style (depth + 1)) (isSpace_lineBreak style depth)
      have hnames := forall_part (p := Member.IsNamed) hmembers
        fun entry _ => isNamed_printedMember style (depth + 1) entry
      have hdenotes := forall_part (p := fun member => Denotes member.item.text member.item.value)
        hmembers fun entry hentry => ih entry hentry (depth + 1)
      have h := Denotes.obj (ne_nil_of_map_part hmembers) hspaces hnames hdenotes
      rw [htext, map_of_map_part Member.entry hmembers] at h
      simpa [valueText, membersText_eq, printedMember, printedItem, Member.text, Member.entry, Value.map,
        Value.mapMembers_eq_map] using h

theorem textDenotes_render {v : Value σ} (h : v.IsWhole) (style : Style) :
    TextDenotes (v.render style).toList (v.map Spelled.joined) := by
  have hspace : IsSpace [] := List.forall_mem_nil _
  refine ⟨⟨[], printedItem style 0 v, []⟩, ⟨hspace, hspace⟩, ?_, ?_⟩
  . exact denotes_valueText h style 0
  . simp [Value.render, Spaced.text, printedItem]

/-- A `String` has no surrogates, so what is printed denotes the value itself. -/
theorem textDenotes_render_string {v : Value} (h : v.IsWhole) (style : Style) :
    TextDenotes (v.render style).toList v := by
  have hmap : v.map Spelled.joined = v :=
    (v.map_eq_self_iff _).mpr fun s _ => Spelled.joined_string s
  have hdenotes := textDenotes_render h style
  rwa [hmap] at hdenotes

theorem TextDenotes.append {cs : List Char} {v : Value σ} (h : TextDenotes cs v) {space : List Char}
    (hspace : IsSpace space) : TextDenotes (cs ++ space) v := by
  obtain ⟨spaced, ⟨hbefore, hafter⟩, hdenotes, rfl⟩ := h
  refine ⟨{ spaced with after := spaced.after ++ space }, ⟨hbefore, ?_⟩, hdenotes, ?_⟩
  . exact List.forall_mem_append.mpr ⟨hafter, hspace⟩
  . simp [Spaced.text]

end MarkdownIntake.Json
