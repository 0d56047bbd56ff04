import MarkdownIntake.Proofs.Command.Documents
import MarkdownIntake.Proofs.Command.Session
import MarkdownIntake.Proofs.Import.Masking
import MarkdownIntake.Proofs.Settings.Token
import Mathlib.Data.List.ReduceOption

/-!
This module contains the call that a run makes which imports a document: what counts for it is what is
given, then what the environment says, then what is stored.
-/

namespace MarkdownIntake.Command

open MarkdownIntake.Import MarkdownIntake.Storage MarkdownIntake.Text

def firstNonempty? (texts : List (Option String)) : Option String :=
  texts.findSome? (Option.filter (!·.isEmpty))

theorem firstNonempty?_cons (text? : Option String) (texts : List (Option String)) :
    firstNonempty? (text? :: texts) = (text?.filter (!·.isEmpty)).or (firstNonempty? texts) := by
  rw [firstNonempty?, List.findSome?_cons]
  cases text?.filter (!·.isEmpty) <;> rfl

theorem filter_or_filter {α : Type} (p : α → Bool) (a b : Option α) :
    ((a.filter p).or b).filter p = (a.filter p).or (b.filter p) := by
  cases h : a.filter p with
  | none => rfl
  | some x =>
    rw [Option.filter_eq_some_iff] at h
    simp [h.2]

theorem filter_isEmpty (text? : Option String) :
    text?.filter (!·.isEmpty)
      =
    if (text?.getD "").isEmpty then none else some (text?.getD "") := by
  cases text? with
  | none => rfl
  | some text => by_cases h : text.isEmpty <;> simp [Option.filter, h]

def tokenWords : Option String → List String
  | none => []
  | some token => [tokenOption, token]

namespace Import

def overrides (options : Import) : Settings.Overrides where
  spaceId := options.spaceId
  environmentId := options.environmentId

theorem knowsFormat_overrides (options : Import) : options.overrides.KnowsFormat :=
  nofun

def contentPath (options : Import) (stored : Settings) : Path :=
  options.importFile.getD stored.importPath

def spaceId? (options : Import) (environment : Environment) (stored : Settings) : Option String :=
  firstNonempty? [options.spaceId, environment.get? Settings.spaceVariable, stored.entry.spaceId]

def environmentId? (options : Import) (environment : Environment) (stored : Settings) : Option String :=
  firstNonempty?
    [options.environmentId, environment.get? Settings.environmentVariable, stored.entry.environmentId]

def token? (options : Import) (environment : Environment) (stored? : Option String) : Option String :=
  firstNonempty? [options.managementToken, environment.get? Settings.tokenVariable, stored?]

def given (options : Import) (environment : Environment) (stored : Settings)
    (storedToken? : Option String) : List String :=
  [options.spaceId? environment stored, options.environmentId? environment stored,
    some (options.contentPath stored).text, options.token? environment storedToken?].reduceOption

def command? (options : Import) (environment : Environment) (stored : Settings)
    (storedToken? : Option String) : Option (List String) := do
  let spaceId ← options.spaceId? environment stored
  let environmentId ← options.environmentId? environment stored
  return bareCommand spaceId environmentId (options.contentPath stored).text
    ++ tokenWords (options.token? environment storedToken?)

def callOf (command : List String) : Call where
  command
  timeout := defaultTimeout

/-- The call that a run makes in this world, in which the variables are loaded, if it makes one. -/
def call? (outside : Outside) (options : Import) (world : World) (stored : Settings)
    (storedToken? : Option String) : Option Call := do
  let command ← options.command? world.environment stored storedToken?
  if world.files.exists? (options.contentPath stored) && outside.program.installed
      && (callOf command).isPassable then
    return callOf command
  else
    none

/-- The call of a run that starts in this world and loads its variables first. -/
def made? (outside : Outside) (options : Import) (world : World) (stored : Settings)
    (storedToken? : Option String) : Option Call :=
  match options.fault? world with
  | some _ => none
  | none => options.call? outside (options.loaded world) stored storedToken?

theorem isPassable_iff {spaceId environmentId file : String} {token? : Option String} :
    (callOf (bareCommand spaceId environmentId file ++ tokenWords token?)).isPassable = true
      ↔
    ∀ word ∈ [some spaceId, some environmentId, some file, token?].reduceOption,
      hasZero word = false := by
  have hnames : ∀ name ∈ ["contentful", "space", "import", "--space-id", "--environment-id",
      "--content-file", tokenOption], hasZero name = false := by
    decide
  cases token? <;>
    simp_all [Call.isPassable, callOf, bareCommand, tokenWords, List.reduceOption]

theorem isSome_call?_iff {outside : Outside} {options : Import} {world : World} {stored : Settings}
    {storedToken? : Option String} :
    (options.call? outside world stored storedToken?).isSome ↔
      (options.spaceId? world.environment stored).isSome
        ∧ (options.environmentId? world.environment stored).isSome
        ∧ world.files.exists? (options.contentPath stored) ∧ outside.program.installed
        ∧ ∀ word ∈ options.given world.environment stored storedToken?, hasZero word = false := by
  unfold call? command? given
  cases options.spaceId? world.environment stored with
  | none => simp
  | some spaceId =>
    cases options.environmentId? world.environment stored with
    | none => simp
    | some environmentId =>
      rw [← isPassable_iff]
      by_cases hexists : world.files.exists? (options.contentPath stored) <;>
        by_cases hinstalled : outside.program.installed <;> simp [hexists, hinstalled]

/-! ### What counts -/

theorem get?_loaded (options : Import) (world : World) (name : String) :
    (options.loaded world).environment.get? name
      =
    (world.environment.get? name).or
      ((world.files.read? options.environmentFile).bind fun text =>
        (world.environment.newIn text).lookup name) := by
  unfold loaded
  cases world.files.read? options.environmentFile with
  | none => simp
  | some text => exact world.environment.get?_load text name

theorem get?_loaded_of_taken {options : Import} {world : World} (h : options.fault? world = none)
    (name : String) :
    (options.loaded world).environment.get? name
      =
    (world.environment.get? name).or
      ((world.files.read? options.environmentFile).bind (world.environment.valueIn? · name)) := by
  unfold fault? at h
  unfold loaded
  cases hread : world.files.read? options.environmentFile with
  | none => simp
  | some text =>
    rw [hread] at h
    exact Environment.get?_load_of_taken h name

theorem isSome_get?_loaded_iff {options : Import} {world : World} (h : options.fault? world = none)
    {name : String} (hnew : world.environment.get? name = none) :
    ((options.loaded world).environment.get? name).isSome ↔
      ∃ text binding, world.files.read? options.environmentFile = some text
        ∧ Binding.last? (Binding.ofText text) name = some binding ∧ binding.value?.isSome := by
  rw [get?_loaded_of_taken h, hnew, Option.none_or]
  cases world.files.read? options.environmentFile with
  | none => simp
  | some text => simpa using Environment.isSome_valueIn?_iff _ _ _

theorem fault?_ne_none_iff (options : Import) (world : World) :
    options.fault? world ≠ none ↔ ∃ text name value,
      world.files.read? options.environmentFile = some text ∧ world.environment.get? name = none
        ∧ world.environment.valueIn? text name = some value
        ∧ (hasZero name = true ∨ hasZero value = true ∨ '=' ∈ name.toList) := by
  unfold fault?
  cases world.files.read? options.environmentFile with
  | none => simp
  | some text =>
    simp only [Option.bind_some, ne_eq, Environment.fst_load_eq_none_iff, not_forall,
      Option.some.injEq, ← Environment.fault?_ne_none_iff, exists_prop]
    exact ⟨fun ⟨name, value, h⟩ => ⟨text, name, value, rfl, h⟩,
      fun ⟨_, name, value, htext, h⟩ => htext ▸ ⟨name, value, h⟩⟩

section

variable {options : Import} {environment : Environment} {stored settings : Settings}

theorem spaceId?_eq (h : stored.effective environment options.overrides = .ok settings) :
    options.spaceId? environment stored = settings.entry.spaceId.filter (!·.isEmpty) := by
  obtain ⟨-, -, -, hentry⟩ := Settings.of_effective h
  rw [hentry, spaceId?, firstNonempty?_cons, firstNonempty?_cons, firstNonempty?_cons]
  simp only [Environment.nonempty?, Option.or_assoc, filter_or_filter]
  rw [firstNonempty?, List.findSome?_nil, Option.or_none]
  rfl

theorem environmentId?_eq (h : stored.effective environment options.overrides = .ok settings) :
    options.environmentId? environment stored
      =
    (some settings.entry.environmentId).filter (!·.isEmpty) := by
  obtain ⟨-, -, -, hentry⟩ := Settings.of_effective h
  rw [hentry, environmentId?, firstNonempty?_cons, firstNonempty?_cons, firstNonempty?_cons]
  simp only [Settings.given, ← Option.or_some, filter_or_filter]
  rw [firstNonempty?, List.findSome?_nil, Option.or_none]
  rfl

theorem token?_eq {folder : Settings.Folder} {format : Settings.Format} {files : Files}
    {storedToken? : Option String}
    (h : Settings.loadToken format folder files {} = .ok storedToken?) :
    ∃ token?, Settings.managementToken format folder files environment options.managementToken = .ok token?
      ∧ options.token? environment storedToken? = token?.filter (!·.isEmpty) := by
  have hload := Settings.loadToken_eq h environment
  unfold Settings.managementToken
  rw [token?, firstNonempty?_cons, firstNonempty?_cons, firstNonempty?_cons, firstNonempty?,
    List.findSome?_nil, Option.or_none]
  cases hgiven : options.managementToken.filter (!·.isEmpty) with
  | some token =>
    rw [Option.filter_eq_some_iff] at hgiven
    exact ⟨some token, rfl, (if_pos hgiven.2).symm⟩
  | none => exact ⟨_, hload, by rw [Environment.nonempty?, filter_or_filter]; rfl⟩

theorem command_eq {spaceId environmentId : String} (hspace : spaceId ≠ "")
    (henvironment : environmentId ≠ "") (token? : Option String) (file : String) :
    command { spaceId, environmentId, managementToken := token? } file
      =
    .ok (bareCommand spaceId environmentId file ++ tokenWords (token?.filter (!·.isEmpty))) := by
  cases token? with
  | none => simp [command_without_token hspace henvironment, tokenWords]
  | some token =>
    by_cases htoken : token = ""
    . subst htoken
      simp only [command, String.isEmpty_iff, hspace, henvironment, if_false]
      rfl
    . have hfilter : (some token).filter (!·.isEmpty) = some token := if_pos (by simpa using htoken)
      rw [command_with_token hspace henvironment htoken, hfilter, tokenWords]

end

end Import

end MarkdownIntake.Command
