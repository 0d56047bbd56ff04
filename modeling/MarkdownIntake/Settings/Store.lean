import MarkdownIntake.Settings.Check
import MarkdownIntake.Settings.Update
import MarkdownIntake.Storage.Environment
import MarkdownIntake.Storage.Files
import MarkdownIntake.Yaml.Printer
import MarkdownIntake.Yaml.Reader

/-!
This module contains the storage of the settings and of the management token in two files. A file
that cannot be understood counts as missing, but one with a value of a wrong shape is an error.
-/

namespace MarkdownIntake.Settings

open MarkdownIntake.Json MarkdownIntake.Storage

structure Format where
  render : Value → String
  parse : String → Except Yaml.Error Yaml.Value
  writes : Value → Bool := fun _ => true

def yaml : Format where
  render := Yaml.render
  parse := Yaml.parse
  writes := Value.isTellable

structure Folder where
  path : Path

def Folder.settingsFile (folder : Folder) : Path :=
  folder.path.join (Path.ofText "config.yaml")

def Folder.credentialsFile (folder : Folder) : Path :=
  folder.path.join (Path.ofText "credentials.yaml")

inductive LoadError where
  | notNamed
  | wrongKind (error : Yaml.Error)
deriving Repr, DecidableEq

def entriesOf (format : Format) (text : String) :
    Except LoadError (Option (List (Yaml.Value × Yaml.Value))) :=
  match format.parse text with
  | .error .malformed => .ok none
  | .error error => .error (.wrongKind error)
  | .ok value =>
    if value.isEmpty then .ok (some [])
    else match value with
      | .map entries =>
        if Yaml.Value.hasTextKeys entries then .ok (some entries) else .error .notNamed
      | _ => .error .notNamed

def ofText (format : Format) (text : String) : Except LoadError Settings := do
  match ← entriesOf format text with
  | none => return {}
  | some entries => return (ofEntries entries).toOption.getD {}

def load (format : Format) (folder : Folder) (files : Files) : Except LoadError Settings :=
  match files.read? folder.settingsFile with
  | none => .ok {}
  | some text => ofText format text

/-- Store a record. Its file is emptied first, and it stays empty if there is no text for the record. -/
def store (format : Format) (folder : Folder) (files : Files) (value : Value) : Files :=
  files.write folder.settingsFile (if format.writes value then format.render value else "")

def save (format : Format) (folder : Folder) (files : Files) (settings : Settings) : Files :=
  store format folder files settings.toJson

inductive ChangeError where
  | notLoaded (error : LoadError)
  | notChanged (error : UpdateError)
deriving Repr, DecidableEq

def update (format : Format) (folder : Folder) (files : Files) (key : String) (value : Value) :
    Except ChangeError Files := do
  let settings ← (load format folder files).mapError .notLoaded
  let changed ← (settings.changed key value).mapError .notChanged
  if format.writes changed then return store format folder files changed
  else .error (.notChanged .unwritable)

def ChangeError.filesLeft (folder : Folder) (files : Files) : ChangeError → Files
  | .notChanged .unwritable => files.write folder.settingsFile ""
  | _ => files

/-! ### The management token -/

def tokenName : String := "management_token"

def tokenVariable : String := "CONTENTFUL_MANAGEMENT_TOKEN"

def tokenOfText (format : Format) (text : String) : Except LoadError (Option String) := do
  let entries ← entriesOf format text
  let value? := entries.bind (Yaml.Value.entry? tokenName)
  return value?.bind fun value => ((readOptionalText value).toOption).join

def loadToken (format : Format) (folder : Folder) (files : Files) (environment : Environment) :
    Except LoadError (Option String) := do
  let stored ← match files.read? folder.credentialsFile with
    | none => .ok none
    | some text => tokenOfText format text
  return (environment.nonempty? tokenVariable).or stored

def saveToken (format : Format) (folder : Folder) (files : Files) (token? : Option String) : Files :=
  let members := token?.toList.map fun token => (tokenName, Value.str token)
  files.write folder.credentialsFile (format.render (.obj members))

def clearToken (folder : Folder) (files : Files) : Files :=
  files.remove folder.credentialsFile

def managementToken (format : Format) (folder : Folder) (files : Files) (environment : Environment)
    (given? : Option String) : Except LoadError (Option String) :=
  match given?.filter (!·.isEmpty) with
  | some token => .ok (some token)
  | none => loadToken format folder files environment

end MarkdownIntake.Settings
