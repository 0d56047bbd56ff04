import MarkdownIntake.Proofs.Text.Lines
import Mathlib.Data.List.Infix
import Mathlib.Data.List.TakeWhile

/-!
This module contains search patterns. A pattern is a sequence of parts; each takes a piece of the text
and leaves the rest to the parts after it. Where a part may take pieces of several lengths it prefers
long or short ones, and it goes on to its next choice only if the parts after it fail.
-/

namespace MarkdownIntake.Text

inductive Part where
  | lineStart
  | lineEnd
  | one (c : Char)
  /-- Takes at least `least` characters with property `p`, and as many as possible. -/
  | most (least : Nat) (p : Char → Bool)
  /-- Takes at least `least` characters with property `p`, and as few as possible. -/
  | fewest (least : Nat) (p : Char → Bool)

abbrev Pattern := List Part

/-- The pieces of at least `least` characters with property `p` at the start, the shortest one first. -/
def runs (least : Nat) (p : Char → Bool) (after : List Char) : List (List Char) :=
  (after.takeWhile p).inits.filter (least ≤ ·.length)

def Part.pieces (before after : List Char) : Part → List (List Char)
  | .lineStart => if before.getLast?.all (· = '\n') then [[]] else []
  | .lineEnd => if after.head?.all (· = '\n') then [[]] else []
  | .one c => if after.head? = some c then [[c]] else []
  | .most least p => (runs least p after).reverse
  | .fewest least p => runs least p after

namespace Pattern

def ways : Pattern → (before after : List Char) → List (List (List Char))
  | [], _, _ => [[]]
  | part :: parts, before, after =>
    (part.pieces before after).flatMap fun piece =>
      (ways parts (before ++ piece) (after.drop piece.length)).map (piece :: ·)

def match? (pattern : Pattern) (before after : List Char) : Option (List (List Char)) :=
  (pattern.ways before after).head?

/-- The matches in a text from left to right, where the next `skip` characters are in one already. -/
def allMatches (pattern : Pattern) :
    (skip : Nat) → (before after : List Char) → List (List (List Char))
  | 0, before, [] => (pattern.match? before []).toList
  | _ + 1, _, [] => []
  | 0, before, c :: after =>
    match pattern.match? before (c :: after) with
    | some pieces =>
      pieces :: allMatches pattern (pieces.flatten.length - 1) (before ++ [c]) after
    | none => allMatches pattern 0 (before ++ [c]) after
  | skip + 1, before, c :: after => allMatches pattern skip (before ++ [c]) after

end Pattern

/-! ### Pieces -/

theorem mem_runs_iff {least : Nat} {p : Char → Bool} {after piece : List Char} :
    piece ∈ runs least p after ↔ piece <+: after.takeWhile p ∧ least ≤ piece.length := by
  rw [runs, List.mem_filter, List.mem_inits, decide_eq_true_eq]

theorem Part.isPrefix_of_mem_pieces {part : Part} {before after piece : List Char}
    (h : piece ∈ part.pieces before after) : piece <+: after := by
  have hruns : ∀ {least p}, piece ∈ runs least p after → piece <+: after := by
    intro least p hmem
    exact (mem_runs_iff.mp hmem).1.trans (List.takeWhile_prefix p)
  cases part with
  | lineStart => simp_all [pieces]
  | lineEnd => simp_all [pieces]
  | one c =>
    simp only [pieces] at h
    split at h
    . next hhead =>
      obtain ⟨rest, rfl⟩ := List.head?_eq_some_iff.mp hhead
      rw [List.mem_singleton.mp h]
      exact ⟨rest, rfl⟩
    . cases h
  | most least p => exact hruns (List.mem_reverse.mp h)
  | fewest least p => exact hruns h

theorem exists_inits_eq (piece : List Char) :
    ∃ shorter, piece.inits = shorter ++ [piece]
      ∧ ∀ short ∈ shorter, short <+: piece ∧ short.length < piece.length := by
  rcases List.eq_nil_or_concat piece with rfl | ⟨first, last, rfl⟩
  . exact ⟨[], rfl, nofun⟩
  . rw [List.concat_eq_append]
    refine ⟨first.inits, by simp [List.inits_append], ?_⟩
    intro short hshort
    have hstarts := (List.mem_inits short first).mp hshort
    have hlength := hstarts.length_le
    refine ⟨hstarts.trans (List.prefix_append first [last]), ?_⟩
    rw [List.length_append, List.length_singleton]
    omega

theorem exists_runs_eq {least : Nat} {p : Char → Bool} {after piece tail : List Char}
    (hrun : after.takeWhile p = piece ++ tail) (hleast : least ≤ piece.length) :
    ∃ shorter longer, runs least p after = shorter ++ piece :: longer
      ∧ (∀ short ∈ shorter, short <+: piece ∧ short.length < piece.length)
      ∧ (tail = [] → longer = []) := by
  obtain ⟨shorter, hinits, hshorter⟩ := exists_inits_eq piece
  refine ⟨shorter.filter (least ≤ ·.length),
    (tail.inits.tail.map (piece ++ ·)).filter (least ≤ ·.length), ?_, ?_, ?_⟩
  . simp [runs, hrun, List.inits_append, hinits, List.filter_append, hleast]
  . intro short hshort
    exact hshorter short (List.mem_of_mem_filter hshort)
  . rintro rfl
    rfl

namespace Pattern

theorem flatten_isPrefix_of_mem_ways {pattern : Pattern} {before after : List Char}
    {pieces : List (List Char)} (h : pieces ∈ pattern.ways before after) : pieces.flatten <+: after := by
  induction pattern generalizing before after pieces with
  | nil => simp_all [ways]
  | cons part parts ih =>
    simp only [ways, List.mem_flatMap, List.mem_map] at h
    obtain ⟨piece, hpiece, others, hothers, rfl⟩ := h
    obtain ⟨rest, rfl⟩ := Part.isPrefix_of_mem_pieces hpiece
    rw [List.drop_left] at hothers
    rw [List.flatten_cons]
    exact (List.prefix_append_right_inj piece).mpr (ih hothers)

theorem match?_cons (part : Part) (parts : Pattern) (before after : List Char) :
    match? (part :: parts) before after
      =
    (part.pieces before after).findSome? fun piece =>
      (match? parts (before ++ piece) (after.drop piece.length)).map (piece :: ·) := by
  simp [match?, ways, List.head?_flatMap, List.head?_map]

theorem match?_lineStart {parts : Pattern} {before after : List Char} (h : EndsLine before) :
    match? (.lineStart :: parts) before after = (match? parts before after).map ([] :: ·) := by
  rcases h with h | h <;> simp [match?_cons, Part.pieces, h]

theorem match?_lineStart_of_not {parts : Pattern} {before after : List Char} (h : ¬ EndsLine before) :
    match? (.lineStart :: parts) before after = none := by
  have hlast : before.getLast?.all (· = '\n') = false := by
    cases hlast : before.getLast? with
    | none => exact absurd (.inl (List.getLast?_eq_none_iff.mp hlast)) h
    | some c => simpa using fun hc : c = '\n' => h (.inr (hc ▸ hlast))
  simp [match?_cons, Part.pieces, hlast]

theorem match?_one {c : Char} {parts : Pattern} {before after : List Char} :
    match? (.one c :: parts) before (c :: after)
      =
    (match? parts (before ++ [c]) after).map ([c] :: ·) := by
  simp [match?_cons, Part.pieces]

theorem match?_one_of_ne {c : Char} {parts : Pattern} {before after : List Char}
    (h : after.head? ≠ some c) : match? (.one c :: parts) before after = none := by
  simp [match?_cons, Part.pieces, h]

theorem match?_most_of_head {p : Char → Bool} {least : Nat} {parts : Pattern}
    {before after : List Char} (h : ∀ c ∈ after.head?, p c = false) (hleast : 0 < least) :
    match? (.most least p :: parts) before after = none := by
  have hrun : after.takeWhile p = [] := takeWhile_append_of_head (List.forall_mem_nil _) h
  have hruns : runs least p after = [] := by
    rw [runs, hrun, List.filter_eq_nil_iff]
    simp [hleast]
  simp [match?_cons, Part.pieces, hruns]

theorem match?_cons_of_pieces {part : Part} {parts : Pattern} {before after piece : List Char}
    {others longer pieces : List (List Char)}
    (hpieces : part.pieces before after = others ++ piece :: longer)
    (hothers : ∀ other ∈ others, match? parts (before ++ other) (after.drop other.length) = none)
    (h : match? parts (before ++ piece) (after.drop piece.length) = some pieces) :
    match? (part :: parts) before after = some (piece :: pieces) := by
  rw [match?_cons, hpieces, List.findSome?_append, List.findSome?_cons, h]
  rw [List.findSome?_eq_none_iff.mpr]
  . rfl
  . intro other hother
    rw [hothers other hother]
    rfl

theorem match?_most {least : Nat} {p : Char → Bool} {parts : Pattern} {before run rest : List Char}
    {pieces : List (List Char)} (hrun : ∀ c ∈ run, p c = true) (hrest : ∀ c ∈ rest.head?, p c = false)
    (hleast : least ≤ run.length) (h : match? parts (before ++ run) rest = some pieces) :
    match? (.most least p :: parts) before (run ++ rest) = some (run :: pieces) := by
  have hwhole : (run ++ rest).takeWhile p = run ++ [] := by
    rw [takeWhile_append_of_head hrun hrest, List.append_nil]
  obtain ⟨shorter, longer, hruns, -, hlonger⟩ := exists_runs_eq hwhole hleast
  have hpieces : (Part.most least p).pieces before (run ++ rest) = [] ++ run :: shorter.reverse := by
    simp [Part.pieces, hruns, hlonger rfl]
  exact match?_cons_of_pieces hpieces nofun (by rwa [List.drop_left])

theorem match?_fewest {least : Nat} {p : Char → Bool} {parts : Pattern}
    {before piece rest : List Char} {pieces : List (List Char)} (hpiece : ∀ c ∈ piece, p c = true)
    (hleast : least ≤ piece.length)
    (hshort : ∀ short tail, piece = short ++ tail → tail ≠ [] →
      match? parts (before ++ short) (tail ++ rest) = none)
    (h : match? parts (before ++ piece) rest = some pieces) :
    match? (.fewest least p :: parts) before (piece ++ rest) = some (piece :: pieces) := by
  obtain ⟨shorter, longer, hruns, hshorter, -⟩ :=
    exists_runs_eq (List.takeWhile_append_of_pos hpiece) hleast
  refine match?_cons_of_pieces hruns ?_ (by rwa [List.drop_left])
  intro short hmem
  obtain ⟨⟨tail, rfl⟩, hlength⟩ := hshorter short hmem
  rw [List.append_assoc, List.drop_left]
  refine hshort short tail rfl ?_
  rintro rfl
  simp at hlength

theorem isSome_match?_lineEnd {before after : List Char} :
    (match? [.lineEnd] before after).isSome = true ↔ ∀ c ∈ after.head?, c = '\n' := by
  cases after with
  | nil => simp [Part.pieces, match?, ways]
  | cons c after => by_cases h : c = '\n' <;> simp [Part.pieces, match?, ways, h]

theorem isSome_match?_lineTail {p : Char → Bool} {before line rest : List Char}
    (hline : '\n' ∉ line) (hrest : ∀ c ∈ rest.head?, c = '\n') :
    (match? [.most 0 p, .lineEnd] before (line ++ rest)).isSome = true
      ↔
    ∀ c ∈ line, p c = true := by
  simp only [match?_cons (.most 0 p), List.findSome?_isSome_iff, Option.isSome_map,
    isSome_match?_lineEnd, Part.pieces, List.mem_reverse, mem_runs_iff]
  constructor
  . rintro ⟨piece, ⟨⟨hstarts, -⟩, hend⟩⟩
    have hpiece : ∀ c ∈ piece, p c = true :=
      fun c hc => List.mem_takeWhile_imp (hstarts.subset hc)
    have hwhole := hstarts.trans (List.takeWhile_prefix p)
    -- A piece that ends inside the line is followed by a character of the line.
    rcases List.prefix_or_prefix_of_prefix hwhole (List.prefix_append line rest) with h | h
    . obtain ⟨_ | ⟨c, tail⟩, rfl⟩ := h
      . rwa [List.append_nil]
      . rw [List.append_assoc, List.drop_left] at hend
        refine absurd ?_ hline
        rw [← hend c rfl]
        simp
    . exact fun c hc => hpiece c (h.subset hc)
  . intro h
    refine ⟨line, ⟨?_, Nat.zero_le _⟩, ?_⟩
    . rw [List.takeWhile_append_of_pos h]
      exact List.prefix_append line _
    . rwa [List.drop_left]

end Pattern

end MarkdownIntake.Text
