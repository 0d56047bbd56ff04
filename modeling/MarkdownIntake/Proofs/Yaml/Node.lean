import MarkdownIntake.Proofs.Yaml.Tokens

/-!
This module contains the nodes of a YAML text without tags. Nothing in it is said to be of a kind, so the
kind of a text is that which the text looks like.
-/

namespace MarkdownIntake.Yaml

def Error.IsMistaken : Error → Prop
  | .malformed | .tooLarge => False
  | .unknownWord | .emptyNumber | .noMoment | .mapAsMoment => True

/-- A reading may fail, but nothing is taken for what it is not. -/
def Sound {α : Type} (result : Except Error α) : Prop :=
  ∀ error, result = .error error → ¬ error.IsMistaken

namespace Sound

variable {α β : Type}

theorem ok (a : α) : Sound (.ok a : Except Error α) :=
  nofun

theorem malformed : Sound (.error .malformed : Except Error α) := by
  rintro _ ⟨⟩
  exact id

theorem tooLarge : Sound (.error .tooLarge : Except Error α) := by
  rintro _ ⟨⟩
  exact id

protected theorem bind {result : Except Error α} {next : α → Except Error β} (h : Sound result)
    (hnext : ∀ a, Sound (next a)) : Sound (result >>= next) := by
  cases result with
  | error error =>
    rintro _ ⟨⟩
    exact h error rfl
  | ok a => exact hnext a

protected theorem map {result : Except Error α} (f : α → β) (h : Sound result) : Sound (result.map f) := by
  cases result with
  | error error =>
    rintro _ ⟨⟩
    exact h error rfl
  | ok a => exact ok (f a)

end Sound

def SoundWith {α : Type} (result : Except Error α) (P : α → Prop) : Prop :=
  Sound result ∧ ∀ a, result = .ok a → P a

namespace SoundWith

variable {α β : Type} {P : α → Prop} {Q : β → Prop}

theorem ok {a : α} (h : P a) : SoundWith (.ok a) P := by
  refine ⟨Sound.ok a, ?_⟩
  rintro _ ⟨⟩
  exact h

theorem malformed : SoundWith (.error .malformed) P :=
  ⟨Sound.malformed, nofun⟩

theorem tooLarge : SoundWith (.error .tooLarge) P :=
  ⟨Sound.tooLarge, nofun⟩

protected theorem bind {result : Except Error α} {next : α → Except Error β} (h : SoundWith result P)
    (hnext : ∀ a, P a → SoundWith (next a) Q) : SoundWith (result >>= next) Q := by
  cases result with
  | error error =>
    refine ⟨?_, nofun⟩
    rintro _ ⟨⟩
    exact h.1 error rfl
  | ok a => exact hnext a (h.2 a rfl)

protected theorem map {result : Except Error α} {f : α → β} (h : SoundWith result P)
    (hf : ∀ a, P a → Q (f a)) : SoundWith (result.map f) Q := by
  cases result with
  | error error =>
    refine ⟨?_, nofun⟩
    rintro _ ⟨⟩
    exact h.1 error rfl
  | ok a => exact ok (hf a (h.2 a rfl))

protected theorem mapM {items : List α} {f : α → Except Error β} (h : ∀ item ∈ items, SoundWith (f item) Q) :
    SoundWith (items.mapM f) fun results => ∀ result ∈ results, Q result := by
  induction items with
  | nil => exact ok (List.forall_mem_nil _)
  | cons item rest ih =>
    obtain ⟨hitem, hrest⟩ := List.forall_mem_cons.mp h
    rw [List.mapM_cons]
    apply hitem.bind
    intro result hresult
    apply (ih hrest).bind
    intro results hresults
    exact ok (List.forall_mem_cons.mpr ⟨hresult, hresults⟩)

end SoundWith

/-! ### Nodes without tags -/

namespace Node

inductive Untagged : Node → Prop where
  | plain (text : String) : Untagged (.scalar (.scalar (Kind.ofPlain text)) text)
  | text (text : String) : Untagged (.scalar (.scalar .text) text)
  | list {items : List Node} (h : ∀ item ∈ items, Untagged item) : Untagged (.list .list items)
  | map {entries : List (Node × Node)} (hkeys : ∀ entry ∈ entries, Untagged entry.1)
    (hvalues : ∀ entry ∈ entries, Untagged entry.2) : Untagged (.map .map entries)

def ItemsUntagged (items : List Node) : Prop :=
  ∀ item ∈ items, item.Untagged

def EntriesUntagged (entries : List (Node × Node)) : Prop :=
  ∀ entry ∈ entries, entry.1.Untagged ∧ entry.2.Untagged

theorem EntriesUntagged.untagged {entries : List (Node × Node)} (h : EntriesUntagged entries) :
    Untagged (.map .map entries) :=
  .map (fun entry hentry => (h entry hentry).1) fun entry hentry => (h entry hentry).2

theorem untagged_empty : empty.Untagged :=
  .plain ""

theorem untagged_ofScalar (text : String) (isPlain : Bool) : (ofScalar none text isPlain).Untagged := by
  cases isPlain with
  | false => exact .text text
  | true => exact .plain text

def NoTags (tokens : List Token) : Prop :=
  ∀ token ∈ tokens, ¬ token.IsTag

theorem NoTags.suffix {tokens rest : List Token} (h : NoTags tokens) (hrest : rest <:+ tokens) : NoTags rest :=
  fun token htoken => h token (hrest.subset htoken)

theorem NoTags.tail {first : Token} {rest : List Token} (h : NoTags (first :: rest)) : NoTags rest :=
  h.suffix (List.suffix_cons first rest)

structure State.Untagged (state : State) : Prop where
  tokens : NoTags state.tokens
  anchors : ∀ anchor ∈ state.anchors, anchor.2.Untagged

theorem State.Untagged.lookup {state : State} {name : String} {node : Node} (h : state.Untagged)
    (hnode : state.anchors.lookup name = some node) : node.Untagged := by
  obtain ⟨before, after, hanchors, -⟩ := List.lookup_eq_some_iff.mp hnode
  exact h.anchors (name, node) (by simp [hanchors])

/--
As long as nothing is tagged, a reader leaves nothing tagged and reads only what satisfies this, or it
fails soundly.
-/
def Yields {α : Type} (part : Read α) (P : α → Prop) : Prop :=
  ∀ state : State, state.Untagged →
    SoundWith (part.run state) fun read => read.2.Untagged ∧ P read.1

namespace Yields

variable {α β : Type} {P : α → Prop} {Q : β → Prop}

protected theorem pure {a : α} (h : P a) : Yields (pure a) P :=
  fun _ hstate => SoundWith.ok ⟨hstate, h⟩

protected theorem fail : Yields Read.fail P :=
  fun _ _ => SoundWith.malformed

protected theorem bind {part : Read α} {next : α → Read β} (h : Yields part P)
    (hnext : ∀ a, P a → Yields (next a) Q) : Yields (part >>= next) Q := by
  intro state hstate
  rw [StateT.run_bind]
  exact (h state hstate).bind fun read hread => hnext read.1 hread.2 read.2 hread.1

protected theorem get : Yields get State.Untagged :=
  fun _ hstate => SoundWith.ok ⟨hstate, hstate⟩

protected theorem ite {condition : Prop} [Decidable condition] {part other : Read α} (h : Yields part P)
    (hother : Yields other P) : Yields (if condition then part else other) P := by
  split
  . exact h
  . exact hother

end Yields

namespace Read

theorem yields_left : Yields left NoTags := by
  apply Yields.get.bind
  intro state hstate
  split
  . exact fun _ _ => SoundWith.tooLarge
  . exact Yields.pure hstate.tokens

theorem yields_goOn {tokens : List Token} (h : NoTags tokens) : Yields (goOn tokens) fun _ => True :=
  fun _ hstate => SoundWith.ok ⟨⟨h, hstate.anchors⟩, trivial⟩

theorem yields_next (inClass : Token → Bool) : Yields (next inClass) fun _ => True :=
  yields_left.bind fun _ _ => Yields.pure trivial

theorem yields_accept (token : Token) : Yields (accept token) fun _ => True := by
  apply yields_left.bind
  intro tokens htokens
  cases tokens with
  | nil => exact Yields.pure trivial
  | cons first rest =>
    apply Yields.ite
    . exact (yields_goOn htokens.tail).bind fun _ _ => Yields.pure trivial
    . exact Yields.pure trivial

theorem yields_expect (token : Token) : Yields (expect token) fun _ => True := by
  apply (yields_accept token).bind
  intro found _
  split
  . exact Yields.pure trivial
  . exact Yields.fail

theorem yields_anchor : Yields anchor fun _ => True := by
  apply yields_left.bind
  intro tokens htokens
  split
  . exact (yields_goOn htokens.tail).bind fun _ _ => Yields.pure trivial
  . exact Yields.pure trivial

theorem yields_tag : Yields tag (· = none) := by
  apply yields_left.bind
  intro tokens htokens
  split
  . next handle? suffix rest =>
    exact absurd trivial (htokens (.tag handle? suffix) List.mem_cons_self)
  . exact Yields.pure rfl

theorem yields_properties : Yields properties fun properties => properties.2 = none := by
  apply yields_anchor.bind
  intro name? _
  split
  . exact yields_tag.bind fun tag? htag => Yields.pure htag
  . apply yields_tag.bind
    rintro _ rfl
    exact Yields.pure rfl

theorem yields_bind (name? : Option String) {node : Node} (h : node.Untagged) :
    Yields (Read.bind name? node) fun _ => True := by
  unfold Read.bind
  split
  . exact Yields.pure trivial
  . exact fun _ hstate =>
      SoundWith.ok ⟨⟨hstate.tokens, List.forall_mem_cons.mpr ⟨h, hstate.anchors⟩⟩, trivial⟩

theorem yields_checkFree (name? : Option String) : Yields (checkFree name?) fun _ => True := by
  unfold checkFree
  split
  . exact Yields.pure trivial
  . apply Yields.get.bind
    intro state _
    split
    . exact Yields.fail
    . exact Yields.pure trivial

end Read

/-! ### Reading nodes -/

structure Readers (fuel : Nat) : Prop where
  read : ∀ place, Yields (read place fuel) Untagged
  content : ∀ place name?, Yields (content place name? none fuel) Untagged
  readUnless : ∀ isEnd place, Yields (readUnless isEnd place fuel) Untagged
  items : Yields (items fuel) ItemsUntagged
  looseItems : Yields (looseItems fuel) ItemsUntagged
  entries : Yields (entries fuel) EntriesUntagged
  bracketValue : Yields (bracketValue fuel) Untagged
  bracketItems : ∀ isFirst, Yields (bracketItems isFirst fuel) ItemsUntagged
  bracketEntries : ∀ isFirst, Yields (bracketEntries isFirst fuel) EntriesUntagged

namespace Readers

variable {fuel : Nat}

theorem yields_read (h : Readers fuel) (place : Place) : Yields (Node.read place (fuel + 1)) Untagged := by
  rw [Node.read]
  apply Read.yields_left.bind
  intro tokens htokens
  split
  . apply (Read.yields_goOn htokens.tail).bind
    intro _ _
    apply Yields.get.bind
    intro state hstate
    split
    . next node hlookup => exact Yields.pure (hstate.lookup hlookup)
    . exact Yields.fail
  . apply Read.yields_properties.bind
    rintro ⟨name?, _⟩ rfl
    apply (Read.yields_checkFree name?).bind
    intro _ _
    apply (h.content place name?).bind
    intro node hnode
    exact (Read.yields_bind name? hnode).bind fun _ _ => Yields.pure hnode

theorem yields_content (h : Readers fuel) (place : Place) (name? : Option String) :
    Yields (Node.content place name? none (fuel + 1)) Untagged := by
  have hlist : ∀ {part : Read (List Node)}, Yields part ItemsUntagged →
      Yields (do
        Read.bind name? (.list .list [])
        return .list .list (← part)) Untagged := fun hpart =>
    (Read.yields_bind name? (.list (List.forall_mem_nil _))).bind fun _ _ =>
      hpart.bind fun _ hitems => Yields.pure (.list hitems)
  have hmap : ∀ {part : Read (List (Node × Node))}, Yields part EntriesUntagged →
      Yields (do
        Read.bind name? (.map .map [])
        return .map .map (← part)) Untagged := fun hpart =>
    (Read.yields_bind name? (.map (List.forall_mem_nil _) (List.forall_mem_nil _))).bind fun _ _ =>
      hpart.bind fun _ hentries => Yields.pure hentries.untagged
  rw [Node.content]
  apply Read.yields_left.bind
  intro tokens htokens
  split
  . next text isPlain rest =>
    exact (Read.yields_goOn htokens.tail).bind fun _ _ => Yields.pure (untagged_ofScalar text isPlain)
  . exact (Read.yields_goOn htokens.tail).bind fun _ _ => hlist (h.bracketItems true)
  . exact (Read.yields_goOn htokens.tail).bind fun _ _ => hmap (h.bracketEntries true)
  . have hrest : NoTags (tokens.drop 1) := htokens.suffix (List.drop_suffix 1 tokens)
    apply Yields.ite
    . exact hlist h.looseItems
    apply Yields.ite
    . exact (Read.yields_goOn hrest).bind fun _ _ => hlist h.items
    apply Yields.ite
    . exact (Read.yields_goOn hrest).bind fun _ _ => hmap h.entries
    apply Yields.ite
    . exact Yields.pure (untagged_ofScalar "" true)
    . exact Yields.fail

theorem yields_readUnless (h : Readers fuel) (isEnd : Token → Bool) (place : Place) :
    Yields (Node.readUnless isEnd place (fuel + 1)) Untagged := by
  rw [Node.readUnless]
  apply (Read.yields_next isEnd).bind
  intro _ _
  exact Yields.ite (Yields.pure untagged_empty) (h.read place)

theorem yields_items (h : Readers fuel) : Yields (Node.items (fuel + 1)) ItemsUntagged := by
  rw [Node.items]
  apply (Read.yields_accept .item).bind
  intro _ _
  apply Yields.ite
  . apply (h.readUnless endsItem .inBlock).bind
    intro item hitem
    exact h.items.bind fun _ hrest => Yields.pure (List.forall_mem_cons.mpr ⟨hitem, hrest⟩)
  . exact (Read.yields_expect .blockEnd).bind fun _ _ => Yields.pure (List.forall_mem_nil _)

theorem yields_looseItems (h : Readers fuel) : Yields (Node.looseItems (fuel + 1)) ItemsUntagged := by
  rw [Node.looseItems]
  apply (Read.yields_accept .item).bind
  intro _ _
  apply Yields.ite
  . apply (h.readUnless _ .inBlock).bind
    intro item hitem
    exact h.looseItems.bind fun _ hrest => Yields.pure (List.forall_mem_cons.mpr ⟨hitem, hrest⟩)
  . exact Yields.pure (List.forall_mem_nil _)

theorem yields_entries (h : Readers fuel) : Yields (Node.entries (fuel + 1)) EntriesUntagged := by
  rw [Node.entries]
  apply (Read.yields_accept .key).bind
  intro _ _
  apply Yields.ite
  . apply (h.readUnless endsEntry .inMap).bind
    intro key hkey
    have hrest : ∀ value, value.Untagged →
        Yields (do return (key, value) :: (← Node.entries fuel)) EntriesUntagged :=
      fun value hvalue => h.entries.bind fun _ hrest =>
        Yields.pure (List.forall_mem_cons.mpr ⟨⟨hkey, hvalue⟩, hrest⟩)
    apply (Read.yields_accept .value).bind
    intro _ _
    apply Yields.ite
    . exact (h.readUnless endsEntry .inMap).bind hrest
    . exact (Yields.pure untagged_empty).bind hrest
  . exact (Read.yields_expect .blockEnd).bind fun _ _ => Yields.pure (List.forall_mem_nil _)

theorem yields_bracketValue (h : Readers fuel) : Yields (Node.bracketValue (fuel + 1)) Untagged := by
  rw [Node.bracketValue]
  apply (Read.yields_accept .value).bind
  intro _ _
  exact Yields.ite (h.readUnless endsPart .inBrackets) (Yields.pure untagged_empty)

theorem yields_parts {α : Type} {P : List α → Prop} {part : Read (List α)} (close : Token) (isFirst : Bool)
    (hnil : P []) (hpart : Yields part P) :
    Yields (do
      if ← Read.accept close then
        return []
      else
        unless isFirst do Read.expect .comma
        if ← Read.accept close then return [] else part) P := by
  have hnext : Yields (do if ← Read.accept close then return [] else part) P :=
    (Read.yields_accept close).bind fun _ _ => Yields.ite (Yields.pure hnil) hpart
  apply (Read.yields_accept close).bind
  intro _ _
  apply Yields.ite (Yields.pure hnil)
  apply Yields.ite hnext
  exact (Read.yields_expect .comma).bind fun _ _ => hnext

theorem yields_bracketItems (h : Readers fuel) (isFirst : Bool) :
    Yields (Node.bracketItems isFirst (fuel + 1)) ItemsUntagged := by
  rw [Node.bracketItems]
  apply yields_parts .closeList isFirst (List.forall_mem_nil _)
  apply (Read.yields_accept .key).bind
  intro _ _
  apply Yields.ite
  . apply (h.readUnless _ .inBrackets).bind
    intro key hkey
    apply h.bracketValue.bind
    intro value hvalue
    have hentry : Untagged (.map .map [(key, value)]) :=
      EntriesUntagged.untagged (List.forall_mem_singleton.mpr ⟨hkey, hvalue⟩)
    exact (h.bracketItems false).bind fun _ hrest =>
      Yields.pure (List.forall_mem_cons.mpr ⟨hentry, hrest⟩)
  . apply (h.read .inBrackets).bind
    intro item hitem
    exact (h.bracketItems false).bind fun _ hrest =>
      Yields.pure (List.forall_mem_cons.mpr ⟨hitem, hrest⟩)

theorem yields_bracketEntries (h : Readers fuel) (isFirst : Bool) :
    Yields (Node.bracketEntries isFirst (fuel + 1)) EntriesUntagged := by
  rw [Node.bracketEntries]
  apply yields_parts .closeMap isFirst (List.forall_mem_nil _)
  apply (Read.yields_accept .key).bind
  intro _ _
  apply Yields.ite
  . apply (h.readUnless _ .inBrackets).bind
    intro key hkey
    apply h.bracketValue.bind
    intro value hvalue
    exact (h.bracketEntries false).bind fun _ hrest =>
      Yields.pure (List.forall_mem_cons.mpr ⟨⟨hkey, hvalue⟩, hrest⟩)
  . apply (h.read .inBrackets).bind
    intro key hkey
    exact (h.bracketEntries false).bind fun _ hrest =>
      Yields.pure (List.forall_mem_cons.mpr ⟨⟨hkey, untagged_empty⟩, hrest⟩)

end Readers

theorem readers (fuel : Nat) : Readers fuel := by
  induction fuel with
  | zero =>
    exact {
      read := fun _ => Yields.fail
      content := fun _ _ => Yields.fail
      readUnless := fun _ _ => Yields.fail
      items := Yields.fail
      looseItems := Yields.fail
      entries := Yields.fail
      bracketValue := Yields.fail
      bracketItems := fun _ => Yields.fail
      bracketEntries := fun _ => Yields.fail }
  | succ fuel ih =>
    exact {
      read := ih.yields_read
      content := ih.yields_content
      readUnless := ih.yields_readUnless
      items := ih.yields_items
      looseItems := ih.yields_looseItems
      entries := ih.yields_entries
      bracketValue := ih.yields_bracketValue
      bracketItems := ih.yields_bracketItems
      bracketEntries := ih.yields_bracketEntries }

/-! ### Documents -/

theorem soundWith_directives (hasVersion : Bool) (handles : List (String × String)) (tokens : List Token) :
    SoundWith (directives hasVersion handles tokens) fun found => found.2 <:+ tokens := by
  fun_induction directives hasVersion handles tokens with
  | case1 | case3 => exact SoundWith.malformed
  | case2 | case4 | case5 =>
    next ih => exact ⟨ih.1, fun found h => (ih.2 found h).trans (List.suffix_cons _ _)⟩
  | case6 => exact SoundWith.tooLarge
  | case7 => exact SoundWith.ok (List.suffix_refl _)

theorem soundWith_heading {tokens : List Token} (htokens : NoTags tokens) (isDeclared : Bool) :
    SoundWith (heading isDeclared tokens) fun found => NoTags found.2 := by
  unfold heading
  split
  . apply (soundWith_directives _ _ _).bind
    intro found hrest
    split
    . exact SoundWith.ok (htokens.suffix ((List.suffix_cons _ _).trans hrest))
    . exact SoundWith.malformed
  . exact SoundWith.ok htokens

theorem soundWith_document {tokens : List Token} (htokens : NoTags tokens)
    (handles : List (String × String)) (mayBeEmpty : Bool) :
    SoundWith (document handles mayBeEmpty tokens) fun found => found.1.Untagged := by
  unfold document
  split
  . exact SoundWith.ok untagged_empty
  . have hread := (readers (4 * tokens.length + 8)).read .inBlock { tokens, handles }
      ⟨htokens, List.forall_mem_nil _⟩
    exact hread.map fun _ h => h.2

theorem soundWith_finish (tokens : List Token) : SoundWith (finish tokens) fun _ => True := by
  unfold finish
  split
  . exact SoundWith.ok trivial
  . exact (soundWith_directives _ _ _).bind fun _ _ => SoundWith.malformed

theorem soundWith_ofTokens {tokens : List Token} (htokens : NoTags tokens) :
    SoundWith (ofTokens tokens) fun node? => ∀ node ∈ node?, node.Untagged := by
  unfold ofTokens
  split
  . exact SoundWith.ok nofun
  . next first tail =>
    apply (soundWith_heading htokens _).bind
    rintro ⟨handles, body⟩ hbody
    apply (soundWith_document hbody _ _).bind
    rintro ⟨node, left⟩ hnode
    apply (soundWith_finish left).bind
    intro _ _
    exact SoundWith.ok (by rintro _ ⟨⟩; exact hnode)

end Node

end MarkdownIntake.Yaml
