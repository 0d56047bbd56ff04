import MarkdownIntake.Proofs.Text.Lines
import MarkdownIntake.Proofs.Yaml.Node

/-!
This module contains which errors a YAML text can have. A value that is not of its kind is one that is
said to be of a kind by a tag: the kinds that plain texts have by themselves fit them.
-/

namespace MarkdownIntake.Yaml

open MarkdownIntake.Text

namespace Kind

theorem exists_digit_of_isInt {cs : List Char} (h : isInt cs) :
    ∃ digit rest, unsigned cs = digit :: rest ∧ digit.isDigit := by
  unfold isInt at h
  split at h
  . cases h
  . next hcs => exact ⟨_, _, hcs, by decide⟩
  . next hcs => exact ⟨_, _, hcs, by decide⟩
  . next hcs => exact ⟨_, _, hcs, by decide⟩
  . next c rest _ _ _ hcs =>
    rw [Bool.and_eq_true] at h
    exact ⟨c, rest, hcs, h.1⟩

theorem ne_gap_of_isDigit {c : Char} (h : c.isDigit) : c ≠ '_' := by
  rintro rfl
  exact absurd h (by decide)

theorem head_ne_gap_of_isPlainReal {isSigned : Bool} {cs : List Char} (h : isPlainReal isSigned cs) :
    ∃ c ∈ cs.head?, c ≠ '_' := by
  unfold isPlainReal at h
  split at h
  . exact ⟨'.', rfl, by decide⟩
  . next c rest _ =>
    rw [Bool.and_eq_true] at h
    exact ⟨c, rfl, ne_gap_of_isDigit h.1⟩
  . cases h

theorem head_ne_gap_of_isSexagesimalReal {cs : List Char} (h : isSexagesimalReal cs) :
    ∃ c ∈ cs.head?, c ≠ '_' := by
  cases cs with
  | nil => cases h
  | cons c rest =>
    refine ⟨c, rfl, ?_⟩
    rintro rfl
    unfold isSexagesimalReal at h
    split at h
    . next first second others hsplit =>
      have hfirst : first.head?.any Char.isDigit = false := by
        rw [splitAt_cons, if_neg (by decide)] at hsplit
        unfold consFirst at hsplit
        split at hsplit
        . cases hsplit
        . cases hsplit
          rfl
      split at h
      . simp [hfirst] at h
      . cases h
    . cases h

theorem unsigned_of_isDigit {digit : Char} (h : digit.isDigit) (rest : List Char) :
    unsigned (digit :: rest) = digit :: rest := by
  unfold unsigned
  split
  . next hcs =>
    cases hcs
    exact absurd h (by decide)
  . next hcs =>
    cases hcs
    exact absurd h (by decide)
  . rfl

theorem unsigned_suffix (cs : List Char) : unsigned cs <:+ cs := by
  unfold unsigned
  split
  . exact List.suffix_cons _ _
  . exact List.suffix_cons _ _
  . exact List.suffix_refl _

theorem exists_ne_gap_of_isReal {cs : List Char} (h : isReal cs) : ∃ c ∈ cs, c ≠ '_' := by
  have hhead : (∃ c ∈ (unsigned cs).head?, c ≠ '_') → ∃ c ∈ cs, c ≠ '_' := fun ⟨c, hc, hne⟩ =>
    ⟨c, (unsigned_suffix cs).subset (List.mem_of_mem_head? hc), hne⟩
  simp only [isReal, Bool.or_eq_true] at h
  rcases h with ((h | h) | h) | h
  . exact hhead (head_ne_gap_of_isPlainReal h)
  . exact hhead (head_ne_gap_of_isSexagesimalReal h)
  . have hwords : ∀ word ∈ infiniteWords, word.toList.head? = some '.' := by decide
    have hpoint := hwords _ (List.contains_iff_mem.mp h)
    exact hhead ⟨'.', by simpa using hpoint, by decide⟩
  . have hwords : ∀ word ∈ nanWords, word.toList.head? = some '.' := by decide
    have hpoint := hwords _ (List.contains_iff_mem.mp h)
    exact ⟨'.', List.mem_of_mem_head? (by simpa using hpoint), by decide⟩

end Kind

namespace Scalar

theorem unsigned_withoutGaps {text : String} {digit : Char} {rest : List Char}
    (h : Kind.unsigned text.toList = digit :: rest) (hdigit : digit.isDigit) :
    Kind.unsigned (withoutGaps text) = digit :: rest.filter (· ≠ '_') := by
  have hgap := Kind.ne_gap_of_isDigit hdigit
  unfold withoutGaps
  unfold Kind.unsigned at h
  split at h
  . next hcs => rw [hcs, h]; simp [Kind.unsigned, hgap]
  . next hcs => rw [hcs, h]; simp [Kind.unsigned, hgap]
  . simp [h, hgap, Kind.unsigned_of_isDigit hdigit]

theorem isOk_readBool : ∀ text ∈ Kind.boolWords, (readBool text).isOk := by
  decide

theorem sound_readBool {text : String} (h : text ∈ Kind.boolWords) : Sound (readBool text) := by
  have hok := isOk_readBool text h
  intro error herror
  rw [herror] at hok
  cases hok

theorem sound_readMoment {text : String} (h : Kind.isMoment text.toList) : Sound (readMoment text) := by
  unfold readMoment
  unfold Kind.isMoment at h
  split
  . next hnone => simp [hnone] at h
  . split
    . exact Sound.ok _
    . exact Sound.malformed

theorem sound_readUnsignedInt {cs : List Char} (h : cs ≠ []) : Sound (readUnsignedInt cs) := by
  unfold readUnsignedInt
  dsimp only
  split
  . exact absurd rfl h
  . exact Sound.ok _
  all_goals
    split
    . exact Sound.ok _
    . exact Sound.malformed

theorem sound_readInt {text : String} (h : Kind.unsigned (withoutGaps text) ≠ []) : Sound (readInt text) :=
  (sound_readUnsignedInt h).bind fun _ => Sound.ok _

theorem sound_sexagesimalReal (parts : List Number.Binary64) : Sound (sexagesimalReal parts) := by
  unfold sexagesimalReal
  split
  . exact Sound.tooLarge
  . exact Sound.ok _

theorem sound_readReal {text : String} (h : withoutGaps text ≠ []) : Sound (readReal text) := by
  unfold readReal
  dsimp only
  split
  . next hempty => simp [h] at hempty
  split
  . exact Sound.ok _
  split
  . exact Sound.ok _
  split
  . exact Sound.ok _
  . exact (sound_sexagesimalReal _).map _
  . exact Sound.malformed

theorem sound_read_ofPlain (text : String) : Sound (read (Kind.ofPlain text) text) := by
  unfold Kind.ofPlain
  dsimp only
  split
  . exact Sound.ok _
  split
  . next hword => exact sound_readBool (List.contains_iff_mem.mp hword)
  split
  . next hreal =>
    obtain ⟨c, hc, hgap⟩ := Kind.exists_ne_gap_of_isReal hreal
    exact sound_readReal (List.ne_nil_of_mem (List.mem_filter.mpr ⟨hc, by simpa using hgap⟩))
  split
  . next hint =>
    obtain ⟨digit, rest, hcs, hdigit⟩ := Kind.exists_digit_of_isInt hint
    exact sound_readInt (by rw [unsigned_withoutGaps hcs hdigit]; exact List.cons_ne_nil _ _)
  split
  . next hmoment => exact sound_readMoment hmoment
  split
  . exact Sound.malformed
  split
  . exact Sound.malformed
  . exact Sound.ok _

end Scalar

/-! ### Whole texts -/

namespace Node

theorem untagged_retagged {key : Node} (h : key.Untagged) :
    Untagged (if key.tag = .scalar .value then key.withTag (.scalar .text) else key) := by
  split
  . next htag =>
    cases h with
    | plain text | text text => exact .text text
    | list | map => cases htag
  . exact h

mutual

theorem untagged_of_split? : ∀ {entries merged own : List (Node × Node)}, EntriesUntagged entries →
    split? entries = some (merged, own) → EntriesUntagged merged ∧ EntriesUntagged own
  | [], merged, own, _, hsplit => by
    cases hsplit
    exact ⟨List.forall_mem_nil _, List.forall_mem_nil _⟩
  | (key, value) :: rest, merged, own, h, hsplit => by
    obtain ⟨⟨hkey, hvalue⟩, hrest⟩ := List.forall_mem_cons.mp h
    simp only [split?, Option.bind_eq_bind, Option.bind_eq_some_iff, Prod.exists] at hsplit
    obtain ⟨restMerged, restOwn, hfound, hsplit⟩ := hsplit
    obtain ⟨hmerged, hown⟩ := untagged_of_split? hrest hfound
    split at hsplit
    . simp only [Option.bind_eq_some_iff] at hsplit
      obtain ⟨taken, htaken, ⟨⟩⟩ := hsplit
      have hfirst := untagged_of_taken? hvalue htaken
      exact ⟨List.forall_mem_append.mpr ⟨hfirst, hmerged⟩, hown⟩
    . cases hsplit
      exact ⟨hmerged, List.forall_mem_cons.mpr ⟨⟨untagged_retagged hkey, hvalue⟩, hown⟩⟩

theorem untagged_of_taken? : ∀ {node : Node} {entries : List (Node × Node)}, node.Untagged →
    node.taken? = some entries → EntriesUntagged entries
  | .scalar _ _, _, _, h => by cases h
  | .list _ items, entries, hnode, h => by
    cases hnode with
    | list hitems => exact untagged_of_itemsTaken? hitems h
  | .map _ found, entries, hnode, h => by
    cases hnode with
    | map hkeys hvalues =>
      have hfound : EntriesUntagged found := fun entry hentry => ⟨hkeys entry hentry, hvalues entry hentry⟩
      simp only [taken?, Option.bind_eq_bind, Option.bind_eq_some_iff, Prod.exists] at h
      obtain ⟨merged, own, hsplit, ⟨⟩⟩ := h
      exact List.forall_mem_append.mpr (untagged_of_split? hfound hsplit)

theorem untagged_of_itemsTaken? : ∀ {items : List Node} {entries : List (Node × Node)}, ItemsUntagged items →
    itemsTaken? items = some entries → EntriesUntagged entries
  | [], entries, _, h => by
    cases h
    exact List.forall_mem_nil _
  | .map _ first :: rest, entries, hitems, h => by
    obtain ⟨hmap, hrest⟩ := List.forall_mem_cons.mp hitems
    cases hmap with
    | map hkeys hvalues =>
      have hfirst : EntriesUntagged first := fun entry hentry => ⟨hkeys entry hentry, hvalues entry hentry⟩
      simp only [itemsTaken?, Option.bind_eq_bind, Option.bind_eq_some_iff, Prod.exists] at h
      obtain ⟨merged, own, hsplit, others, hothers, ⟨⟩⟩ := h
      exact List.forall_mem_append.mpr ⟨untagged_of_itemsTaken? hrest hothers,
        List.forall_mem_append.mpr (untagged_of_split? hfirst hsplit)⟩
  | .scalar _ _ :: _, _, _, h => by cases h
  | .list _ _ :: _, _, _, h => by cases h

end

theorem part_scalar (kind : Kind) (text : String) :
    part (.scalar (.scalar kind) text) = (Scalar.read kind text).map .now := by
  cases kind <;> rfl

theorem soundWith_part {node : Node} (h : node.Untagged) :
    SoundWith node.part fun part => ∀ later ∈ part.later?, later.Untagged := by
  cases h with
  | plain text =>
    rw [part_scalar]
    have hread : SoundWith (Scalar.read (Kind.ofPlain text) text) fun _ => True :=
      ⟨Scalar.sound_read_ofPlain text, fun _ _ => trivial⟩
    exact hread.map fun _ _ => nofun
  | text text =>
    rw [part_scalar]
    exact SoundWith.ok nofun
  | list hitems => exact SoundWith.ok (by rintro _ ⟨⟩; exact .list hitems)
  | map hkeys hvalues => exact SoundWith.ok (by rintro _ ⟨⟩; exact .map hkeys hvalues)

theorem soundWith_entry {found : Node × Node} (hkey : found.1.Untagged) (hvalue : found.2.Untagged) :
    SoundWith (entry found) fun entry => ∀ later ∈ entry.2.later?, later.Untagged := by
  apply (soundWith_part hkey).bind
  intro key _
  cases key with
  | later => exact SoundWith.malformed
  | now key => exact (soundWith_part hvalue).bind fun _ hpart => SoundWith.ok hpart

theorem soundWith_entryParts {entries : List (Node × Node)} (h : EntriesUntagged entries) :
    SoundWith (entryParts entries) fun found =>
      ∀ entry ∈ found, ∀ later ∈ entry.2.later?, later.Untagged := by
  unfold entryParts
  cases hsplit : split? entries with
  | none => exact SoundWith.malformed
  | some found =>
    have hfound := List.forall_mem_append.mpr (untagged_of_split? h hsplit)
    exact SoundWith.mapM fun entry hentry => soundWith_entry (hfound entry hentry).1 (hfound entry hentry).2

theorem soundWith_frame {node : Node} (h : node.Untagged) :
    SoundWith node.frame fun frame => ∀ later ∈ frame.later, later.Untagged := by
  cases h with
  | plain | text => exact SoundWith.malformed
  | list hitems =>
    apply (SoundWith.mapM fun item hitem => soundWith_part (hitems item hitem)).bind
    intro parts hparts
    refine SoundWith.ok fun later hlater => ?_
    obtain ⟨part, hpart, hlater⟩ := List.mem_filterMap.mp hlater
    exact hparts part hpart later hlater
  | map hkeys hvalues =>
    apply (soundWith_entryParts fun entry hentry => ⟨hkeys entry hentry, hvalues entry hentry⟩).bind
    intro entries hentries
    refine SoundWith.ok fun later hlater => ?_
    obtain ⟨entry, hentry, hlater⟩ := List.mem_filterMap.mp hlater
    exact hentries entry hentry later hlater

theorem soundWith_values {nodes : List Node} (h : ItemsUntagged nodes) (fuel : Nat) :
    SoundWith (values fuel nodes) fun _ => True := by
  induction fuel generalizing nodes with
  | zero => exact SoundWith.ok trivial
  | succ fuel ih =>
    apply (SoundWith.mapM fun node hnode => soundWith_frame (h node hnode)).bind
    intro frames hframes
    have hlater : ItemsUntagged (frames.flatMap Frame.later) := by
      intro later hlater
      obtain ⟨frame, hframe, hlater⟩ := List.mem_flatMap.mp hlater
      exact hframes frame hframe later hlater
    exact (ih hlater).bind fun _ _ => SoundWith.ok trivial

theorem soundWith_value {node : Node} (h : node.Untagged) : SoundWith node.value fun _ => True := by
  apply (soundWith_part h).bind
  intro part hpart
  cases part with
  | now value => exact SoundWith.ok trivial
  | later node =>
    have hnode : ItemsUntagged [node] := List.forall_mem_singleton.mpr (hpart node rfl)
    exact (soundWith_values hnode node.depth).bind fun _ _ => SoundWith.ok trivial

end Node

theorem mem_of_mem_unifyLineEnds {c : Char} {cs : List Char} (h : c ∈ unifyLineEnds cs) (hc : c ≠ '\n') :
    c ∈ cs := by
  fun_induction unifyLineEnds cs with
  | case1 => exact h
  | case2 rest ih =>
    have hrest := ih ((List.mem_cons.mp h).resolve_left hc)
    exact List.mem_cons_of_mem _ (List.mem_cons_of_mem _ hrest)
  | case3 rest _ ih => exact List.mem_cons_of_mem _ (ih ((List.mem_cons.mp h).resolve_left hc))
  | case4 first rest _ _ ih =>
    rcases List.mem_cons.mp h with rfl | h
    . exact List.mem_cons_self
    . exact List.mem_cons_of_mem _ (ih h)

/-- Without an exclamation mark, a text is malformed, too large, or all that it says is what it looks like. -/
theorem sound_parse {text : String} (h : '!' ∉ text.toList) : Sound (parse text) := by
  have hcs : '!' ∉ unifyLineEnds text.toList := fun hmark => h (mem_of_mem_unifyLineEnds hmark (by decide))
  unfold parse parseCharacters
  cases htokens : Tokens.ofText? (unifyLineEnds text.toList) with
  | none => exact Sound.malformed
  | some tokens =>
    have hread := Node.soundWith_ofTokens (Tokens.ofText?_not_isTag hcs htokens)
    refine (hread.bind (Q := fun _ => True) ?_).1
    intro node? hnode
    cases node? with
    | none => exact SoundWith.ok trivial
    | some node => exact Node.soundWith_value (hnode node rfl)

end MarkdownIntake.Yaml
