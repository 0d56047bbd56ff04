import MarkdownIntake.Proofs.Yaml.Spot
import MarkdownIntake.Yaml.Reader

/-!
This module contains that a YAML text has no tags unless there is an exclamation mark in it.
-/

namespace MarkdownIntake.Yaml

open MarkdownIntake.Text

def Token.IsTag : Token → Prop
  | .tag _ _ => True
  | _ => False

namespace Spots

def TagFree (spots : Spots) : Prop :=
  ∀ spot ∈ spots, spot.char ≠ '!'

theorem TagFree.suffix {spots rest : Spots} (h : spots.TagFree) (hrest : rest <:+ spots) : rest.TagFree :=
  fun spot hspot => h spot (hrest.subset hspot)

theorem handle?_eq_none {spots : Spots} (h : spots.TagFree) : handle? spots = none := by
  cases spots with
  | nil => rfl
  | cons first rest => rw [handle?, if_pos (h first List.mem_cons_self)]

theorem handleDirective?_eq_none {spots : Spots} (h : spots.TagFree) : handleDirective? spots = none := by
  rw [handleDirective?, handle?_eq_none (h.suffix (span_suffix _ _))]
  rfl

theorem not_isTag_of_version? {spots rest : Spots} {token : Token} (h : version? spots = some (token, rest)) :
    ¬ token.IsTag := by
  unfold version? at h
  dsimp only at h
  split at h
  . split at h
    . cases h
      exact id
    . cases h
  . cases h

/-- A directive that declares a handle has an exclamation mark itself, so only the others are left. -/
theorem tagFree_of_directive? {spots rest : Spots} {token : Token} (hspots : spots.TagFree)
    (h : directive? spots = some (token, rest)) : rest.TagFree ∧ ¬ token.IsTag := by
  have hname := hspots.suffix (span_suffix isNameChar spots)
  simp only [directive?, Option.bind_eq_bind] at h
  split at h
  . cases h
  . split at h
    . simp only [Option.bind_eq_some_iff, Prod.exists] at h
      obtain ⟨found, left, hfound, others, hline, ⟨⟩⟩ := h
      exact ⟨hname.suffix ((skipLine?_suffix hline).trans (version?_suffix hfound)),
        not_isTag_of_version? hfound⟩
    . rw [handleDirective?_eq_none hname] at h
      cases h
    . simp only [Option.bind_eq_some_iff, Option.some.injEq, Prod.exists] at h
      obtain ⟨found, left, ⟨⟩, others, hline, ⟨⟩⟩ := h
      exact ⟨hname.suffix ((skipLine?_suffix hline).trans (span_suffix _ _)), id⟩

theorem chars_locate (index line column : Nat) (cs : List Char) :
    chars (locate index line column cs) = cs := by
  induction cs generalizing index line column with
  | nil => rfl
  | cons c rest ih =>
    rw [locate, chars, List.map_cons]
    split
    . exact congrArg (c :: ·) (ih _ _ _)
    . exact congrArg (c :: ·) (ih _ _ _)

theorem chars_ofText_suffix (cs : List Char) : chars (ofText cs) <:+ cs := by
  cases cs with
  | nil => exact List.suffix_refl _
  | cons c rest =>
    rw [ofText]
    split
    . rw [chars_locate]
      exact List.suffix_cons c rest
    . rw [chars_locate]

theorem tagFree_ofText {cs : List Char} (h : '!' ∉ cs) : (ofText cs).TagFree := by
  intro spot hspot heq
  exact h ((chars_ofText_suffix cs).subset (heq ▸ List.mem_map_of_mem hspot))

end Spots

namespace Tokens

def TagFree (tokens : Tokens) : Prop :=
  ∀ token ∈ tokens.read, ¬ token.IsTag

namespace TagFree

variable {tokens result : Tokens}

theorem congr (h : tokens.TagFree) (hread : result.read = tokens.read) : result.TagFree := by
  rw [TagFree, hread]
  exact h

theorem push {token : Token} (h : tokens.TagFree) (htoken : ¬ token.IsTag) : (tokens.push token).TagFree :=
  List.forall_mem_cons.mpr ⟨htoken, h⟩

theorem insert {inserted : List Token} (h : tokens.TagFree) (count : Nat)
    (hinserted : ∀ token ∈ inserted, ¬ token.IsTag) : (tokens.insert count inserted).TagFree := by
  intro token htoken
  simp only [Tokens.insert, List.mem_append, List.mem_reverse] at htoken
  rcases htoken with (htoken | htoken) | htoken
  . exact h token (List.mem_of_mem_take htoken)
  . exact hinserted token htoken
  . exact h token (List.mem_of_mem_drop htoken)

theorem endBlocks (h : tokens.TagFree) (bound : Nat) : (tokens.endBlocks bound).TagFree := by
  unfold Tokens.endBlocks
  split
  . exact h
  . intro token htoken
    simp only [List.mem_append, List.mem_map] at htoken
    rcases htoken with ⟨_, _, rfl⟩ | htoken
    . exact id
    . exact h token htoken

theorem startBlock {token : Token} (h : tokens.TagFree) (htoken : ¬ token.IsTag) (column : Nat) :
    (tokens.startBlock column token).TagFree := by
  unfold Tokens.startBlock
  split
  . have hstart : TagFree { tokens with indents := column :: tokens.indents } := h
    exact hstart.push htoken
  . exact h

theorem withoutKey? (h : tokens.TagFree) (hresult : tokens.withoutKey? = some result) : result.TagFree := by
  simp only [Tokens.withoutKey?, Option.bind_eq_bind, Option.bind_eq_some_iff] at hresult
  obtain ⟨key?, -, ⟨⟩⟩ := hresult
  exact h

theorem withoutStaleKeys? {spot : Spot} (h : tokens.TagFree)
    (hresult : tokens.withoutStaleKeys? spot = some result) : result.TagFree := by
  simp only [Tokens.withoutStaleKeys?, Option.bind_eq_bind, Option.bind_eq_some_iff] at hresult
  obtain ⟨key?, -, outerKeys, -, ⟨⟩⟩ := hresult
  exact h

theorem noteKey? {spot : Spot} (h : tokens.TagFree) (hresult : tokens.noteKey? spot = some result) :
    result.TagFree := by
  unfold Tokens.noteKey? at hresult
  split at hresult
  . simp only [Option.bind_eq_bind, Option.bind_eq_some_iff] at hresult
    obtain ⟨without, hwithout, ⟨⟩⟩ := hresult
    exact (h.withoutKey? hwithout).congr rfl
  . cases hresult
    exact h

theorem documentToken? {token : Token} (h : tokens.TagFree) (htoken : ¬ token.IsTag)
    (hresult : tokens.documentToken? token = some result) : result.TagFree := by
  simp only [Tokens.documentToken?, Option.bind_eq_bind, Option.bind_eq_some_iff] at hresult
  obtain ⟨without, hwithout, ⟨⟩⟩ := hresult
  exact push (((h.endBlocks 0).withoutKey? hwithout).congr rfl) htoken

theorem openBracket? {spot : Spot} {token : Token} (h : tokens.TagFree) (htoken : ¬ token.IsTag)
    (hresult : tokens.openBracket? spot token = some result) : result.TagFree := by
  simp only [Tokens.openBracket?, Option.bind_eq_bind, Option.bind_eq_some_iff] at hresult
  obtain ⟨noted, hnoted, ⟨⟩⟩ := hresult
  exact push ((h.noteKey? hnoted).congr rfl) htoken

theorem closeBracket? {token : Token} (h : tokens.TagFree) (htoken : ¬ token.IsTag)
    (hresult : tokens.closeBracket? token = some result) : result.TagFree := by
  unfold Tokens.closeBracket? at hresult
  split at hresult
  . cases hresult
  . cases hresult
    exact push (h.congr rfl) htoken

theorem item? {spot : Spot} (h : tokens.TagFree) (hresult : tokens.item? spot = some result) :
    result.TagFree := by
  unfold Tokens.item? at hresult
  split at hresult
  . simp only [Option.bind_eq_bind, Option.bind_eq_some_iff] at hresult
    obtain ⟨without, hwithout, ⟨⟩⟩ := hresult
    exact push (((h.startBlock id spot.column).withoutKey? hwithout).congr rfl) id
  . cases hresult

theorem keyMark? {spot : Spot} (h : tokens.TagFree) (hresult : tokens.keyMark? spot = some result) :
    result.TagFree := by
  unfold Tokens.keyMark? at hresult
  split at hresult
  . simp only [Option.bind_eq_bind, Option.bind_eq_some_iff] at hresult
    obtain ⟨without, hwithout, ⟨⟩⟩ := hresult
    exact push (((h.startBlock id spot.column).withoutKey? hwithout).congr rfl) id
  . cases hresult

theorem valueMark? {spot : Spot} (h : tokens.TagFree) (hresult : tokens.valueMark? spot = some result) :
    result.TagFree := by
  unfold Tokens.valueMark? at hresult
  split at hresult
  . next key hkey =>
    cases hresult
    refine push ((h.insert key.tokenCount ?_).congr rfl) id
    intro token htoken
    split at htoken <;> simp only [List.mem_cons, List.not_mem_nil, or_false] at htoken
    . rcases htoken with rfl | rfl <;> exact id
    . exact htoken ▸ id
  . split at hresult
    . cases hresult
      exact push ((h.startBlock id spot.column).congr rfl) id
    . cases hresult

end TagFree

def StaysFree (result? : Option (Tokens × Spots)) : Prop :=
  ∀ tokens rest, result? = some (tokens, rest) → tokens.TagFree ∧ rest.TagFree

theorem StaysFree.ite {condition : Prop} [Decidable condition] {result? other? : Option (Tokens × Spots)}
    (h : condition → StaysFree result?) (hother : ¬ condition → StaysFree other?) :
    StaysFree (if condition then result? else other?) := by
  split
  . next hcondition => exact h hcondition
  . next hcondition => exact hother hcondition

section

variable {tokens : Tokens} {usable : List Token} {spot : Spot} {rest : Spots}

theorem staysFree_keyToken? {token? : Option (Token × Spots)} (h : tokens.TagFree)
    (htoken : ∀ token others, token? = some (token, others) → ¬ token.IsTag ∧ others.TagFree) :
    StaysFree (tokens.keyToken? spot token?) := by
  intro result others hresult
  simp only [keyToken?, Option.bind_eq_bind, Option.bind_eq_some_iff, Prod.exists] at hresult
  obtain ⟨token, left, hread, noted, hnoted, ⟨⟩⟩ := hresult
  obtain ⟨hfree, hothers⟩ := htoken token _ hread
  exact ⟨TagFree.push ((h.noteKey? hnoted).congr rfl) hfree, hothers⟩

theorem staysFree_quoted {read : Option (List Char × Spots)} (h : tokens.TagFree) (hrest : rest.TagFree)
    (hread : ∀ text others, read = some (text, others) → others <:+ rest) :
    StaysFree (tokens.keyToken? spot (quoted read)) := by
  apply staysFree_keyToken? h
  intro token others htoken
  simp only [quoted, Option.map_eq_some_iff, Prod.exists] at htoken
  obtain ⟨text, left, htext, ⟨⟩⟩ := htoken
  exact ⟨id, hrest.suffix (hread text _ htext)⟩

theorem staysFree_block? (h : tokens.TagFree) (hrest : rest.TagFree) (isFolded : Bool) :
    StaysFree (tokens.block? isFolded rest) := by
  intro result others hresult
  simp only [block?, Option.bind_eq_bind, Option.bind_eq_some_iff, Prod.exists] at hresult
  obtain ⟨without, hwithout, text, left, htext, ⟨⟩⟩ := hresult
  exact ⟨TagFree.push ((h.withoutKey? hwithout).congr rfl) id, hrest.suffix (Spots.block?_suffix htext)⟩

theorem staysFree_doubleQuoted? (h : tokens.TagFree) (husable : ∀ token ∈ usable, ¬ token.IsTag)
    (hrest : rest.TagFree) : StaysFree (tokens.doubleQuoted? usable spot rest) := by
  intro result others hresult
  unfold doubleQuoted? at hresult
  split at hresult
  . simp only [Option.map_eq_some_iff] at hresult
    obtain ⟨noted, -, ⟨⟩⟩ := hresult
    exact ⟨List.forall_mem_cons.mpr ⟨id, husable⟩, nofun⟩
  . next text left htext =>
    exact staysFree_quoted h hrest (by rintro _ _ ⟨⟩; exact Spots.doubleQuoted?_suffix htext) _ _ hresult
  . cases hresult

theorem staysFree_map {tokens? : Option Tokens} (hrest : rest.TagFree)
    (h : ∀ result, tokens? = some result → result.TagFree) : StaysFree (tokens?.map (·, rest)) := by
  intro result others hresult
  simp only [Option.map_eq_some_iff, Prod.mk.injEq] at hresult
  obtain ⟨found, hfound, rfl, rfl⟩ := hresult
  exact ⟨h _ hfound, hrest⟩

theorem staysFree_documentToken? {token : Token} (h : tokens.TagFree) (htoken : ¬ token.IsTag)
    (hrest : rest.TagFree) : StaysFree (do return (← tokens.documentToken? token, rest)) := by
  intro result others hresult
  simp only [Option.bind_eq_bind, Option.bind_eq_some_iff] at hresult
  obtain ⟨found, hfound, ⟨⟩⟩ := hresult
  exact ⟨h.documentToken? htoken hfound, hrest⟩

theorem staysFree_directive? (h : tokens.TagFree) (hrest : rest.TagFree) :
    StaysFree (do
      let (token, rest) ← Spots.directive? rest
      return (← tokens.documentToken? token, rest)) := by
  intro result others hresult
  simp only [Option.bind_eq_bind, Option.bind_eq_some_iff, Prod.exists] at hresult
  obtain ⟨token, left, htoken, found, hfound, ⟨⟩⟩ := hresult
  obtain ⟨hothers, hfree⟩ := Spots.tagFree_of_directive? hrest htoken
  exact ⟨h.documentToken? hfree hfound, hothers⟩

theorem staysFree_name? (h : tokens.TagFree) (hrest : rest.TagFree) {make : String → Token}
    (hmake : ∀ name, ¬ (make name).IsTag) :
    StaysFree (tokens.keyToken? spot ((Spots.name? rest).map fun (name, rest) => (make name, rest))) := by
  apply staysFree_keyToken? h
  intro token others htoken
  simp only [Option.map_eq_some_iff, Prod.exists] at htoken
  obtain ⟨name, left, hname, ⟨⟩⟩ := htoken
  exact ⟨hmake name, hrest.suffix (Spots.name?_suffix hname)⟩

theorem staysFree_step? (h : tokens.TagFree) (husable : ∀ token ∈ usable, ¬ token.IsTag)
    (hspots : Spots.TagFree (spot :: rest)) : StaysFree (tokens.step? usable spot rest) := by
  obtain ⟨hspot, hrest⟩ := List.forall_mem_cons.mp hspots
  have hdropped : Spots.TagFree (rest.drop 2) := Spots.TagFree.suffix hrest (List.drop_suffix 2 rest)
  unfold step?
  dsimp only
  refine .ite (fun _ => staysFree_directive? h hrest) fun _ => ?_
  refine .ite (fun _ => staysFree_documentToken? h id hdropped) fun _ => ?_
  refine .ite (fun _ => staysFree_documentToken? h id hdropped) fun _ => ?_
  refine .ite (fun _ => staysFree_map hrest fun _ => h.openBracket? id) fun _ => ?_
  refine .ite (fun _ => staysFree_map hrest fun _ => h.openBracket? id) fun _ => ?_
  refine .ite (fun _ => staysFree_map hrest fun _ => h.closeBracket? id) fun _ => ?_
  refine .ite (fun _ => staysFree_map hrest fun _ => h.closeBracket? id) fun _ => ?_
  refine .ite (fun _ => staysFree_map hrest ?_) fun _ => ?_
  . intro result hresult
    simp only [Option.map_eq_some_iff] at hresult
    obtain ⟨without, hwithout, rfl⟩ := hresult
    exact TagFree.push ((h.withoutKey? hwithout).congr rfl) id
  refine .ite (fun _ => staysFree_map hrest fun _ => h.item?) fun _ => ?_
  refine .ite (fun _ => staysFree_map hrest fun _ => h.keyMark?) fun _ => ?_
  refine .ite (fun _ => staysFree_map hrest fun _ => h.valueMark?) fun _ => ?_
  refine .ite (fun _ => staysFree_name? h hrest fun _ => id) fun _ => ?_
  refine .ite (fun _ => staysFree_name? h hrest fun _ => id) fun _ => ?_
  refine .ite (fun hmark => absurd hmark hspot) fun _ => ?_
  refine .ite (fun _ => staysFree_block? h hrest _) fun _ => ?_
  refine .ite (fun _ => staysFree_quoted h hrest fun _ _ => Spots.singleQuoted?_suffix) fun _ => ?_
  refine .ite (fun _ => staysFree_doubleQuoted? h husable hrest) fun _ => ?_
  refine .ite (fun _ => ?_) fun _ => nofun
  apply staysFree_keyToken? h
  rintro _ _ ⟨⟩
  exact ⟨id, Spots.TagFree.suffix hspots (Spots.plain_suffix _ _ _ _)⟩

end

theorem finish?_not_isTag {tokens : Tokens} {fuel : Nat} {spots : Spots} {result : List Token}
    (h : tokens.TagFree) (hspots : spots.TagFree) (hresult : tokens.finish? fuel spots = some result) :
    ∀ token ∈ result, ¬ token.IsTag := by
  induction fuel generalizing tokens spots with
  | zero => cases hresult
  | succ fuel ih =>
    have hgap := hspots.suffix (Spots.skipGap_suffix false false spots)
    rw [finish?] at hresult
    dsimp only at hresult
    split at hresult
    . simp only [Option.bind_eq_bind, Option.bind_eq_some_iff] at hresult
      obtain ⟨without, hwithout, ⟨⟩⟩ := hresult
      have hread : without.TagFree := by
        refine TagFree.withoutKey? ?_ hwithout
        apply TagFree.endBlocks
        exact h.congr rfl
      exact fun token htoken => hread token (List.mem_reverse.mp htoken)
    . next spot rest hcons =>
      rw [hcons] at hgap
      simp only [Option.bind_eq_bind, Option.bind_eq_some_iff, Prod.exists] at hresult
      obtain ⟨without, hwithout, later, others, hstep, hrest⟩ := hresult
      have hfree : without.TagFree := by
        refine TagFree.withoutStaleKeys? ?_ hwithout
        exact h.congr rfl
      have husable : ∀ token ∈ (spots.head?.map tokens.usable).getD [], ¬ token.IsTag := by
        cases spots with
        | nil => nofun
        | cons first others => exact fun token htoken => h token (List.mem_of_mem_drop htoken)
      obtain ⟨hlater, hothers⟩ := staysFree_step? (hfree.endBlocks _) husable hgap _ _ hstep
      exact ih hlater hothers hrest

theorem ofText?_not_isTag {cs : List Char} {tokens : List Token} (h : '!' ∉ cs)
    (htokens : ofText? cs = some tokens) : ∀ token ∈ tokens, ¬ token.IsTag := by
  unfold ofText? at htokens
  split at htokens
  . have hnone : TagFree {} := List.forall_mem_nil _
    exact finish?_not_isTag hnone (Spots.tagFree_ofText h) htokens
  . cases htokens

end Tokens

end MarkdownIntake.Yaml
