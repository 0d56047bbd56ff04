import MarkdownIntake.Import.Document
import MarkdownIntake.Json.Value
import MarkdownIntake.Review.Export
import MarkdownIntake.Review.Rule
import MarkdownIntake.Storage.Path
import MarkdownIntake.Web.Download

/-!
This module contains the settings of the program and the keys under which they are stored.
-/

namespace MarkdownIntake

open MarkdownIntake.Import MarkdownIntake.Json MarkdownIntake.Number MarkdownIntake.Review
open MarkdownIntake.Storage

structure EntrySettings where
  spaceId : Option String := none
  environmentId : String := "master"
  contentType : String := defaultContentType
  locale : String := defaultLocale
  publish : Bool := true
deriving Repr, DecidableEq

structure OutputSettings where
  format : String := "text"
  directory : String := "outputs"
  importFile : String := "import.json"
  errorsFile : String := defaultFindingsFile
  color : Bool := true
  verbose : Bool := false
deriving Repr, DecidableEq

structure Settings where
  entry : EntrySettings := {}
  limits : Limits := {}
  timeout : Binary64 := Web.defaultTimeout
  output : OutputSettings := {}
deriving Repr, DecidableEq

namespace Settings

def importPath (settings : Settings) : Path :=
  (Path.ofText settings.output.directory).join (Path.ofText settings.output.importFile)

def errorsPath (settings : Settings) : Path :=
  Path.ofText settings.output.errorsFile

def leastMaxLineLength : Int := 1

def leastLongLineLimit : Int := 0

structure Valid (settings : Settings) : Prop where
  maxLineLength : leastMaxLineLength ≤ settings.limits.maxLineLength
  longLineLimit : leastLongLineLimit ≤ settings.limits.longLineLimit
  timeout : settings.timeout.isPositive

instance (settings : Settings) : Decidable settings.Valid :=
  decidable_of_iff
    (leastMaxLineLength ≤ settings.limits.maxLineLength
      ∧ leastLongLineLimit ≤ settings.limits.longLineLimit ∧ settings.timeout.isPositive)
    ⟨fun ⟨a, b, c⟩ => ⟨a, b, c⟩, fun ⟨a, b, c⟩ => ⟨a, b, c⟩⟩

inductive Section where
  | entry
  | review
  | download
  | output
deriving Repr, DecidableEq

inductive Key where
  | spaceId
  | environmentId
  | contentType
  | locale
  | publish
  | maxLineLength
  | longLineLimit
  | timeout
  | format
  | directory
  | importFile
  | errorsFile
  | color
  | verbose
deriving Repr, DecidableEq

namespace Section

def all : List Section :=
  [.entry, .review, .download, .output]

def name : Section → String
  | .entry => "contentful"
  | .review => "validation"
  | .download => "fetch"
  | .output => "output"

def keys : Section → List Key
  | .entry => [.spaceId, .environmentId, .contentType, .locale, .publish]
  | .review => [.maxLineLength, .longLineLimit]
  | .download => [.timeout]
  | .output => [.format, .directory, .importFile, .errorsFile, .color, .verbose]

def ofName? (name : String) : Option Section :=
  all.find? (·.name = name)

end Section

namespace Key

def name : Key → String
  | .spaceId => "space_id"
  | .environmentId => "environment_id"
  | .contentType => "content_type"
  | .locale => "locale"
  | .publish => "publish"
  | .maxLineLength => "max_line_length"
  | .longLineLimit => "long_line_limit"
  | .timeout => "timeout"
  | .format => "format"
  | .directory => "directory"
  | .importFile => "import_file"
  | .errorsFile => "errors_file"
  | .color => "color"
  | .verbose => "verbose"

def ofName? (part : Section) (name : String) : Option Key :=
  part.keys.find? (·.name = name)

end Key

def get (settings : Settings) : Key → Value
  | .spaceId => .ofOption settings.entry.spaceId
  | .environmentId => .str settings.entry.environmentId
  | .contentType => .str settings.entry.contentType
  | .locale => .str settings.entry.locale
  | .publish => .bool settings.entry.publish
  | .maxLineLength => .int settings.limits.maxLineLength
  | .longLineLimit => .int settings.limits.longLineLimit
  | .timeout => .real settings.timeout
  | .format => .str settings.output.format
  | .directory => .str settings.output.directory
  | .importFile => .str settings.output.importFile
  | .errorsFile => .str settings.output.errorsFile
  | .color => .bool settings.output.color
  | .verbose => .bool settings.output.verbose

def record (valueOf : Key → Value) : Value :=
  .obj (Section.all.map fun part =>
    (part.name, .obj (part.keys.map fun key => (key.name, valueOf key))))

def toJson (settings : Settings) : Value :=
  record settings.get

end Settings

end MarkdownIntake
