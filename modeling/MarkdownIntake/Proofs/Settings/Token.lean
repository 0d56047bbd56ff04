import MarkdownIntake.Proofs.Settings.Operation
import MarkdownIntake.Proofs.Storage.Environment
import Mathlib.Data.List.Induction

/-!
This module contains the token that counts after a history: operations on the stored settings and on the
stored token, edits of the file of the settings, and changes of the environment. The last change of
either place counts, and what a caller gives counts more than both.
-/

namespace MarkdownIntake

def lastSaid? {ι α : Type} (says? : ι → Option α) (items : List ι) : Option α :=
  items.reverse.findSome? says?

section

variable {ι α : Type} (says? : ι → Option α)

theorem lastSaid?_concat (items : List ι) (item : ι) :
    lastSaid? says? (items ++ [item]) = (says? item).or (lastSaid? says? items) := by
  rw [lastSaid?, List.reverse_append, List.reverse_singleton, List.singleton_append,
    List.findSome?_cons]
  cases says? item <;> rfl

theorem lastSaid?_map {β : Type} (f : α → β) (items : List ι) :
    lastSaid? (fun item => (says? item).map f) items = (lastSaid? says? items).map f :=
  List.map_findSome?.symm

/-- What is seen of the state after a run is what was said last, if each step makes it so. -/
theorem view_foldl {σ : Type} {step : σ → ι → σ} (view : σ → α) {items : List ι}
    (hstep : ∀ item ∈ items, ∀ state, view (step state item) = (says? item).getD (view state))
    (start : σ) : view (items.foldl step start) = (lastSaid? says? items).getD (view start) := by
  induction items using List.reverseRecOn with
  | nil => rfl
  | append_singleton rest item ih =>
    simp only [List.mem_append, List.mem_singleton] at hstep
    rw [List.foldl_concat, hstep item (.inr rfl), ih fun other hother => hstep other (.inl hother),
      lastSaid?_concat]
    cases says? item <;> rfl

end

namespace Settings

open MarkdownIntake.Json MarkdownIntake.Storage

/-! ### A token in its file -/

def tokenRecord (token? : Option String) : Value :=
  .obj (token?.toList.map fun token => (tokenName, .str token))

def Format.KeepsToken (format : Format) (token? : Option String) : Prop :=
  format.parse (format.render (tokenRecord token?)) = .ok (.ofJson (tokenRecord token?))

section

variable {format : Format} {folder : Folder} {files : Files} {token? stored? : Option String}

theorem Format.KeepsToken.tokenOfText (h : format.KeepsToken token?) :
    Settings.tokenOfText format (format.render (tokenRecord token?)) = .ok token? := by
  unfold Settings.tokenOfText entriesOf
  rw [h]
  cases token? with
  | none => rfl
  | some token =>
    simp [tokenRecord, Yaml.Value.isEmpty, Yaml.Value.hasTextKeys, Yaml.Value.entry?,
      Yaml.Value.isText, readOptionalText, readText, textOf?, Except.map, Except.toOption, bind,
      Except.bind, pure, Except.pure]

theorem loadToken_of_none (h : files.read? folder.credentialsFile = none) :
    loadToken format folder files {} = .ok none := by
  rw [loadToken, h]
  rfl

theorem loadToken_congr {other : Files}
    (h : files.read? folder.credentialsFile = other.read? folder.credentialsFile)
    (environment : Environment) :
    loadToken format folder files environment = loadToken format folder other environment := by
  rw [loadToken, loadToken, h]

theorem loadToken_eq (h : loadToken format folder files {} = .ok stored?) (environment : Environment) :
    loadToken format folder files environment
      =
    .ok ((environment.nonempty? tokenVariable).or stored?) := by
  unfold loadToken at h ⊢
  cases hread : files.read? folder.credentialsFile with
  | none =>
    rw [hread] at h
    cases h
    rfl
  | some text =>
    rw [hread] at h
    dsimp only at h ⊢
    cases htoken : tokenOfText format text with
    | error error =>
      rw [htoken] at h
      cases h
    | ok token? =>
      rw [htoken] at h
      cases h
      rfl

theorem loadToken_of_read? (h : format.KeepsToken token?)
    (hread : files.read? folder.credentialsFile = some (format.render (tokenRecord token?))) :
    loadToken format folder files {} = .ok token? := by
  rw [loadToken, hread]
  dsimp only
  rw [h.tokenOfText]
  rfl

theorem loadToken_saveToken (h : format.KeepsToken token?) :
    loadToken format folder (saveToken format folder files token?) {} = .ok token? :=
  loadToken_of_read? h (Files.read?_write ..)

theorem loadToken_clearToken :
    loadToken format folder (clearToken folder files) {} = .ok none :=
  loadToken_of_none (Files.read?_remove ..)

end

def tokenOf? : Except Yaml.Error Yaml.Value → Option (Option String)
  | .ok (.map []) => some none
  | .ok (.map [(.text name, .text token)]) => if name = tokenName then some (some token) else none
  | _ => none

theorem eq_of_tokenOf? {result : Except Yaml.Error Yaml.Value} {token? : Option String}
    (h : tokenOf? result = some token?) : result = .ok (.ofJson (tokenRecord token?)) := by
  unfold tokenOf? at h
  split at h
  . cases h
    rfl
  . split at h
    . next hname =>
      cases h
      rw [hname]
      rfl
    . cases h
  . cases h

theorem parse_render_token (token : String) :
    yaml.parse (yaml.render (tokenRecord (some token)))
      =
    Yaml.parseCharacters
      ((({} : Yaml.Page).value none false (.obj [(tokenName, .str token)])).goTo 0).written.reverse := by
  rw [yaml_render, yaml_parse, Yaml.parse, Yaml.render, String.toList_ofList]
  simp [tokenRecord, Yaml.sorted, Yaml.sortedMembers]

/-! ### Histories -/

structure Surroundings where
  files : Files := {}
  environment : Environment := {}
deriving DecidableEq

inductive Event where
  | run (operation : Operation)
  /-- The file of the settings gets another text, or it is removed. -/
  | edit (text? : Option String)
  | setVariable (name value : String)
  | unsetVariable (name : String)

namespace Event

def after (format : Format) (folder : Folder) (state : Surroundings) : Event → Surroundings
  | .run operation =>
    { state with files := (operation.run format folder state.environment state.files).2 }
  | .edit (some text) => { state with files := state.files.write folder.settingsFile text }
  | .edit none => { state with files := state.files.remove folder.settingsFile }
  | .setVariable name value => { state with environment := state.environment.set name value }
  | .unsetVariable name => { state with environment := state.environment.unset name }

def stores? : Event → Option (Option String)
  | .run (.saveToken token?) => some token?
  | .run .clearToken => some none
  | _ => none

def sets? (name : String) : Event → Option (Option String)
  | .setVariable other value => if other = name then some (some value) else none
  | .unsetVariable other => if other = name then some none else none
  | _ => none

section

variable (format : Format) (folder : Folder) (state : Surroundings)

theorem loadToken_after {event : Event}
    (h : ∀ token?, event = .run (.saveToken token?) → format.KeepsToken token?) :
    loadToken format folder (event.after format folder state).files {}
      =
    (event.stores?.map .ok).getD (loadToken format folder state.files {}) := by
  have hplace := Ne.symm folder.place_ne
  cases event with
  | run operation =>
    cases operation with
    | saveToken token? => exact loadToken_saveToken (h token? rfl)
    | clearToken => exact loadToken_clearToken
    | _ => exact loadToken_congr (Operation.read?_credentialsFile_run rfl) _
  | edit text? =>
    cases text? with
    | some text => exact loadToken_congr (Files.read?_write_of_ne hplace _ _) _
    | none => exact loadToken_congr (Files.read?_remove_of_ne hplace _) _
  | setVariable | unsetVariable => rfl

theorem get?_after (event : Event) (name : String) :
    (event.after format folder state).environment.get? name
      =
    (event.sets? name).getD (state.environment.get? name) := by
  cases event with
  | run operation => rfl
  | edit text? => cases text? <;> rfl
  | setVariable other value =>
    rw [after, sets?]
    split
    . next h => exact h ▸ Environment.get?_set ..
    . next h => exact Environment.get?_set_of_ne (Ne.symm h) _ _
  | unsetVariable other =>
    rw [after, sets?]
    split
    . next h => exact h ▸ Environment.get?_unset ..
    . next h => exact Environment.get?_unset_of_ne (Ne.symm h) _

end

end Event

def surroundingsAfter (format : Format) (folder : Folder) (start : Surroundings) (events : List Event) :
    Surroundings :=
  events.foldl (Event.after format folder) start

/--
The token after a history that starts without a stored one. What a caller gives counts first, and then
the present value of the variable, each unless it is empty; else it is the token of the last save that
was not cleared since.
-/
theorem managementToken_after (format : Format) (folder : Folder) {start : Surroundings}
    (hstart : start.files.read? folder.credentialsFile = none) {events : List Event}
    (hformat : ∀ token?, .run (.saveToken token?) ∈ events → format.KeepsToken token?)
    (given? : Option String) :
    managementToken format folder (surroundingsAfter format folder start events).files
        (surroundingsAfter format folder start events).environment given?
      =
    .ok ((given?.filter (!·.isEmpty)).or
      ((((lastSaid? (Event.sets? tokenVariable) events).getD
          (start.environment.get? tokenVariable)).filter (!·.isEmpty)).or
        (lastSaid? Event.stores? events).join)) := by
  have hstored :
      loadToken format folder (surroundingsAfter format folder start events).files {}
        =
      .ok (lastSaid? Event.stores? events).join := by
    have hview := view_foldl (fun event => (Event.stores? event).map Except.ok)
      (fun state : Surroundings => loadToken format folder state.files {})
      (fun event hevent state =>
        Event.loadToken_after format folder state fun token? h => hformat token? (h ▸ hevent)) start
    rw [surroundingsAfter, hview, lastSaid?_map, loadToken_of_none hstart]
    cases lastSaid? Event.stores? events <;> rfl
  have hvariable := view_foldl (Event.sets? tokenVariable)
    (fun state : Surroundings => state.environment.get? tokenVariable)
    (fun event (_ : event ∈ events) state => Event.get?_after format folder state event tokenVariable) start
  unfold managementToken
  cases given?.filter (!·.isEmpty) with
  | some token => rfl
  | none =>
    dsimp only
    rw [loadToken_eq hstored, Environment.nonempty?, surroundingsAfter, hvariable]
    rfl

def secondSave : List Event :=
  [ .run (.saveToken (some "first")), .setVariable tokenVariable "other", .run .clearToken,
    .edit (some "[]"), .run (.update "contentful.locale" (.str "de")),
    .run (.saveToken (some "second")), .setVariable tokenVariable "" ]

theorem managementToken_after_secondSave :
    yaml.KeepsToken (some "first") ∧ yaml.KeepsToken (some "second")
      ∧ managementToken yaml ⟨{}⟩ (surroundingsAfter yaml ⟨{}⟩ {} secondSave).files
          (surroundingsAfter yaml ⟨{}⟩ {} secondSave).environment (some "")
        =
      .ok (some "second") := by
  have hfirst : yaml.KeepsToken (some "first") := by
    apply eq_of_tokenOf?
    rw [parse_render_token]
    decide +kernel
  have hsecond : yaml.KeepsToken (some "second") := by
    apply eq_of_tokenOf?
    rw [parse_render_token]
    decide +kernel
  have hformat : ∀ token?, .run (.saveToken token?) ∈ secondSave → yaml.KeepsToken token? := by
    intro token? hmem
    have h : token? = some "first" ∨ token? = some "second" := by simpa [secondSave] using hmem
    rcases h with rfl | rfl
    . exact hfirst
    . exact hsecond
  exact ⟨hfirst, hsecond, managementToken_after yaml ⟨{}⟩ rfl hformat (some "")⟩

end Settings

end MarkdownIntake
