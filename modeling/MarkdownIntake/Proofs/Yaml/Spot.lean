import Mathlib.Data.List.Infix
import MarkdownIntake.Yaml.Property

/-!
This module contains what the readers of a YAML text leave over: each of them goes on from one place of
the text to a later one.
-/

namespace MarkdownIntake.Yaml.Spots

theorem suffix_tail {rest spots : Spots} {spot : Spot} (h : rest <:+ spots) : rest <:+ spot :: spots :=
  h.trans (List.suffix_cons spot spots)

theorem map_suffix {α β : Type} {read? : Option (α × Spots)} {f : α × Spots → β × Spots} {b : β}
    {spots rest : Spots} (h : read?.map f = some (b, rest)) (hf : ∀ read, (f read).2 = read.2)
    (hread : ∀ a, read? = some (a, rest) → rest <:+ spots) : rest <:+ spots := by
  rw [Option.map_eq_some_iff] at h
  obtain ⟨⟨a, left⟩, hleft, heq⟩ := h
  obtain rfl : rest = left := by simpa [heq] using hf (a, left)
  exact hread a hleft

theorem span_suffix (inClass : Char → Bool) (spots : Spots) : (span inClass spots).2 <:+ spots := by
  fun_induction span inClass spots with
  | case1 => exact List.suffix_refl _
  | case2 spot rest hspot run others hspan ih =>
    rw [hspan] at ih
    exact suffix_tail ih
  | case3 spot rest hspot => exact List.suffix_refl _

theorem skipGap_suffix (inComment hasBreak : Bool) (spots : Spots) :
    (skipGap inComment hasBreak spots).2 <:+ spots := by
  fun_induction skipGap inComment hasBreak spots with
  | case1 | case6 => exact List.suffix_refl _
  | case2 | case3 | case4 | case5 =>
    next ih => exact suffix_tail ih

theorem skipLine?_suffix {inComment : Bool} {spots rest : Spots} (h : skipLine? inComment spots = some rest) :
    rest <:+ spots := by
  fun_induction skipLine? inComment spots with
  | case1 =>
    cases h
    exact List.suffix_refl _
  | case2 =>
    cases h
    exact List.suffix_cons _ _
  | case3 | case4 | case5 =>
    next ih => exact suffix_tail (ih h)
  | case6 => cases h

theorem lineEnds?_suffix {inClass : Char → Bool} {spots rest : Spots} {ends : List Char}
    (h : lineEnds? inClass spots = some (ends, rest)) : rest <:+ spots := by
  fun_induction lineEnds? inClass spots generalizing ends with
  | case1 =>
    cases h
    exact List.suffix_refl _
  | case2 => cases h
  | case3 spot after hmarker hbreak ih => exact suffix_tail (map_suffix h (fun _ => rfl) fun _ => ih)
  | case4 spot after hmarker hbreak hclass ih => exact suffix_tail (ih h)
  | case5 =>
    cases h
    exact List.suffix_refl _

/-! ### Plain texts -/

theorem plainWord_suffix (inBrackets : Bool) (spots : Spots) : (plainWord inBrackets spots).2 <:+ spots := by
  fun_induction plainWord inBrackets spots with
  | case1 | case2 => exact List.suffix_refl _
  | case3 spot rest hend word others hword ih =>
    rw [hword] at ih
    exact suffix_tail ih

theorem plainGap?_suffix {spots rest : Spots} {gap : List Char} (h : plainGap? spots = some (gap, rest)) :
    rest <:+ spots := by
  have hspan := span_suffix (· = ' ') spots
  unfold plainGap? at h
  dsimp only at h
  split at h
  . next hnil =>
    cases h
    exact hspan
  . next spot after hcons =>
    rw [hcons] at hspan
    split at h
    . have hrest := map_suffix h (fun _ => rfl) fun _ => lineEnds?_suffix
      exact (suffix_tail hrest).trans hspan
    . cases h
      rw [hcons]
      exact hspan

theorem plain_suffix (inBrackets : Bool) (indent fuel : Nat) (spots : Spots) :
    (plain inBrackets indent fuel spots).2 <:+ spots := by
  induction fuel generalizing spots with
  | zero => exact List.suffix_refl _
  | succ fuel ih =>
    have hword := plainWord_suffix inBrackets spots
    rw [plain]
    dsimp only
    split
    . next gap spot next hgap =>
      split
      . exact hword
      . exact (ih _).trans ((plainGap?_suffix hgap).trans hword)
    . exact hword

/-! ### Texts in quotes -/

theorem quotedGap?_suffix {spots rest : Spots} {gap : List Char} (h : quotedGap? spots = some (gap, rest)) :
    rest <:+ spots := by
  have hspan := span_suffix isBlank spots
  unfold quotedGap? at h
  dsimp only at h
  split at h
  . cases h
  . next spot after hcons =>
    rw [hcons] at hspan
    split at h
    . have hrest := map_suffix h (fun _ => rfl) fun _ => lineEnds?_suffix
      exact (suffix_tail hrest).trans hspan
    . cases h
      rw [hcons]
      exact hspan

theorem singleQuoted?_suffix {fuel : Nat} {spots rest : Spots} {text : List Char}
    (h : singleQuoted? fuel spots = some (text, rest)) : rest <:+ spots := by
  fun_induction singleQuoted? fuel spots generalizing text with
  | case1 | case2 => cases h
  | case3 fuel spot hquote second after hsecond ih =>
    exact suffix_tail (suffix_tail (map_suffix h (fun _ => rfl) fun _ => ih))
  | case4 | case5 =>
    cases h
    exact List.suffix_cons _ _
  | case6 fuel spot after hquote hseparator ih =>
    simp only [Option.bind_eq_bind, Option.bind_eq_some_iff, Prod.exists] at h
    obtain ⟨gap, between, hgap, others, left, hothers, ⟨⟩⟩ := h
    exact (ih between hothers).trans (quotedGap?_suffix hgap)
  | case7 fuel spot after hquote hseparator ih =>
    exact suffix_tail (map_suffix h (fun _ => rfl) fun _ => ih)

theorem hexNumber?_suffix {value count code : Nat} {spots rest : Spots}
    (h : hexNumber? value count spots = some (code, rest)) : rest <:+ spots := by
  fun_induction hexNumber? value count spots with
  | case1 =>
    cases h
    exact List.suffix_refl _
  | case2 => cases h
  | case3 value count spot after ih =>
    simp only [Option.bind_eq_bind, Option.bind_eq_some_iff] at h
    obtain ⟨digit, hdigit, hnumber⟩ := h
    exact suffix_tail (ih digit hnumber)

theorem escape?_suffix {spots rest : Spots} {part? : Option (List Char)}
    (h : escape? spots = some (part?, rest)) : rest <:+ spots := by
  unfold escape? at h
  split at h
  . cases h
  . next spot after =>
    split at h
    . cases h
      exact List.suffix_cons _ _
    . next count hletter hcount =>
      simp only [Option.bind_eq_bind, Option.bind_eq_some_iff, Prod.exists] at h
      obtain ⟨code, between, hcode, h⟩ := h
      have hsuffix : between <:+ spot :: after := suffix_tail (hexNumber?_suffix hcode)
      split at h
      . cases h
        exact hsuffix
      . split at h
        . cases h
          exact hsuffix
        . cases h
    . split at h
      . exact suffix_tail (map_suffix h (fun _ => rfl) fun _ => lineEnds?_suffix)
      . cases h

theorem doubleQuoted?_suffix {fuel : Nat} {spots rest : Spots} {text? : Option (List Char)}
    (h : doubleQuoted? fuel spots = some (text?, rest)) : rest <:+ spots := by
  induction fuel generalizing spots text? with
  | zero => cases h
  | succ fuel ih =>
    cases spots with
    | nil => cases h
    | cons spot after =>
      rw [doubleQuoted?] at h
      split at h
      . cases h
        exact List.suffix_cons _ _
      . -- Whatever the part before it is, the text goes on where the part ends.
        have hrest : ∀ (part : List Char) (between : Spots), between <:+ spot :: after →
            ((doubleQuoted? fuel between).bind fun others =>
              some (others.1.map (part ++ ·), others.2)) = some (text?, rest) →
            rest <:+ spot :: after := by
          intro part between hbetween hnext
          simp only [Option.bind_eq_some_iff, Prod.exists] at hnext
          obtain ⟨others?, left, hothers, ⟨⟩⟩ := hnext
          exact (ih hothers).trans hbetween
        simp only [Option.bind_eq_bind] at h
        split at h
        . simp only [Option.bind_eq_some_iff, Prod.exists] at h
          obtain ⟨part?, between, hpart, hnext⟩ := h
          have hbetween : between <:+ spot :: after := suffix_tail (escape?_suffix hpart)
          cases part? with
          | none =>
            cases hnext
            exact hbetween
          | some part => exact hrest part between hbetween hnext
        . split at h
          . simp only [Option.bind_eq_some_iff, Option.map_eq_some_iff, Prod.exists] at h
            obtain ⟨part?, between, ⟨gap, left, hgap, ⟨⟩⟩, hnext⟩ := h
            exact hrest gap between (quotedGap?_suffix hgap) hnext
          . exact hrest [spot.char] after (List.suffix_cons _ _) h

/-! ### Texts in blocks of lines -/

theorem readEndSign_suffix (style : BlockStyle) (spots : Spots) : (readEndSign style spots).2 <:+ spots := by
  unfold readEndSign
  split
  . exact List.suffix_refl _
  . split
    . exact List.suffix_cons _ _
    . split
      . exact List.suffix_cons _ _
      . exact List.suffix_refl _

theorem readIndentSign?_suffix {style result : BlockStyle} {spots rest : Spots}
    (h : readIndentSign? style spots = some (result, rest)) : rest <:+ spots := by
  unfold readIndentSign? at h
  split at h
  . cases h
    exact List.suffix_refl _
  . split at h
    . cases h
    . split at h
      . cases h
        exact List.suffix_cons _ _
      . cases h
        exact List.suffix_refl _

theorem blockStyle?_suffix {isFolded : Bool} {style : BlockStyle} {spots rest : Spots}
    (h : blockStyle? isFolded spots = some (style, rest)) : rest <:+ spots := by
  simp only [blockStyle?, Option.bind_eq_bind, Option.bind_eq_some_iff, Prod.exists] at h
  obtain ⟨between, left, hindent, h⟩ := h
  have hleft : left <:+ spots := (readIndentSign?_suffix hindent).trans (readEndSign_suffix _ _)
  have hrest : ∀ (style' : BlockStyle) (others : Spots), others <:+ spots →
      (if endsOr others fun c => c = ' ' || isBreak c then
        (skipLine? false others).bind fun rest => some (style', rest)
      else none) = some (style, rest) →
      rest <:+ spots := by
    intro style' others hothers hnext
    split at hnext
    . rw [Option.bind_eq_some_iff] at hnext
      obtain ⟨after, hline, ⟨⟩⟩ := hnext
      exact (skipLine?_suffix hline).trans hothers
    . cases hnext
  split at h
  . exact hrest _ _ ((readEndSign_suffix _ _).trans hleft) h
  . exact hrest _ _ hleft h

theorem emptyLines_suffix (indent : Nat) (spots : Spots) : (emptyLines indent spots).2 <:+ spots := by
  fun_induction emptyLines indent spots with
  | case1 => exact List.suffix_refl _
  | case2 spot rest hbreak ends others hlines ih =>
    rw [hlines] at ih
    exact suffix_tail ih
  | case3 spot rest hbreak hspace ih => exact suffix_tail ih
  | case4 => exact List.suffix_refl _

theorem leadingLines_suffix (widest : Nat) (spots : Spots) : (leadingLines widest spots).2.2 <:+ spots := by
  fun_induction leadingLines widest spots with
  | case1 => exact List.suffix_refl _
  | case2 widest spot rest hbreak ends wider others hlines ih =>
    rw [hlines] at ih
    exact suffix_tail ih
  | case3 widest spot rest hbreak hspace ih => exact suffix_tail ih
  | case4 => exact List.suffix_refl _

theorem blockLines_suffix (isFolded : Bool) (indent fuel : Nat) (ends : List Char) (spots : Spots) :
    (blockLines isFolded indent fuel ends spots).rest <:+ spots := by
  induction fuel generalizing ends spots with
  | zero => exact List.suffix_refl _
  | succ fuel ih =>
    cases spots with
    | nil => exact List.suffix_refl _
    | cons spot after =>
      rw [blockLines]
      split
      . have hlines := (emptyLines_suffix indent _).trans
          ((List.drop_suffix 1 _).trans (span_suffix (fun c => !isBreak c) (spot :: after)))
        dsimp only
        split
        . split
          . exact (ih _ _).trans hlines
          . exact hlines
        . exact hlines
      . exact List.suffix_refl _

theorem block?_suffix {isFolded : Bool} {least : Nat} {spots rest : Spots} {text : List Char}
    (h : block? isFolded least spots = some (text, rest)) : rest <:+ spots := by
  simp only [block?, Option.bind_eq_bind, Option.bind_eq_some_iff, Prod.exists] at h
  obtain ⟨style, between, hstyle, h⟩ := h
  cases h
  refine ((blockLines_suffix _ _ _ _ _).trans ?_).trans (blockStyle?_suffix hstyle)
  split
  . exact emptyLines_suffix _ _
  . exact leadingLines_suffix _ _

/-! ### Names and directives -/

theorem name?_suffix {spots rest : Spots} {name : String} (h : name? spots = some (name, rest)) :
    rest <:+ spots := by
  unfold name? at h
  dsimp only at h
  split at h
  . cases h
    exact span_suffix _ _
  . cases h

theorem version?_suffix {spots rest : Spots} {token : Token} (h : version? spots = some (token, rest)) :
    rest <:+ spots := by
  unfold version? at h
  dsimp only at h
  split at h
  . split at h
    . cases h
      exact (span_suffix _ _).trans ((List.drop_suffix 1 _).trans ((span_suffix _ _).trans (span_suffix _ _)))
    . cases h
  . cases h

end MarkdownIntake.Yaml.Spots
