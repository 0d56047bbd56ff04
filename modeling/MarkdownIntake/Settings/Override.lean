import MarkdownIntake.Settings.Basic
import MarkdownIntake.Storage.Environment

/-!
This module contains the settings that count for one run: what a run is told counts more than the
environment, and the environment counts more than the stored settings.
-/

namespace MarkdownIntake.Settings

open MarkdownIntake.Number MarkdownIntake.Storage

/-- What a run is told. An empty text counts as nothing. -/
structure Overrides where
  spaceId : Option String := none
  environmentId : Option String := none
  contentType : Option String := none
  locale : Option String := none
  publish : Option Bool := none
  format : Option String := none
  timeout : Option Binary64 := none
deriving Repr, DecidableEq

structure UnknownFormat where
  format : String
deriving Repr, DecidableEq

def UnknownFormat.message (error : UnknownFormat) : String :=
  s!"Invalid output format: {error.format}. Must be 'text' or 'json'"

def formats : List String := ["text", "json"]

def spaceVariable : String := "CONTENTFUL_SPACE_ID"

def environmentVariable : String := "CONTENTFUL_ENVIRONMENT_ID"

def given (text? : Option String) (otherwise : String) : String :=
  (text?.filter (!·.isEmpty)).getD otherwise

def Overrides.format? (overrides : Overrides) : Except UnknownFormat (Option String) :=
  match overrides.format.filter (!·.isEmpty) with
  | none => .ok none
  | some format => if formats.contains format then .ok (some format) else .error { format }

def effective (settings : Settings) (environment : Environment) (overrides : Overrides) :
    Except UnknownFormat Settings := do
  let format? ← overrides.format?
  let { entry, output, .. } := settings
  let spaceId :=
    ((overrides.spaceId.filter (!·.isEmpty)).or (environment.nonempty? spaceVariable)).or entry.spaceId
  return { settings with
    entry := {
      spaceId
      environmentId := given overrides.environmentId
        (given (environment.get? environmentVariable) entry.environmentId)
      contentType := given overrides.contentType entry.contentType
      locale := given overrides.locale entry.locale
      publish := overrides.publish.getD entry.publish }
    timeout := overrides.timeout.getD settings.timeout
    output := { output with format := format?.getD output.format } }

end MarkdownIntake.Settings
