import MarkdownIntake.Command.Words
import MarkdownIntake.Number.Decimal
import MarkdownIntake.Storage.Path

/-!
This module contains the commands of the program and how they are given on a command line.
-/

namespace MarkdownIntake.Command

open MarkdownIntake.Number MarkdownIntake.Storage

structure Validate where
  url : String
  findingsFile : Option Path := none
  exports : Bool := true
  format : Option String := none
  timeout : Option Binary64 := none
  verbose : Bool := false
deriving Repr, DecidableEq

structure Generate where
  /-- The address; it is asked for if it is missing or empty. -/
  url : Option String := none
  validates : Bool := false
  exportsFindings : Bool := false
  findingsFile : Option Path := none
  importFile : Option Path := none
  publish : Option Bool := none
  withContentType : Bool := false
  contentType : Option String := none
  locale : Option String := none
  timeout : Option Binary64 := none
  verbose : Bool := false
deriving Repr, DecidableEq

structure Import where
  importFile : Option Path := none
  spaceId : Option String := none
  environmentId : Option String := none
  managementToken : Option String := none
  environmentFile : Path := Path.ofText ".env"
  verbose : Bool := false
deriving Repr, DecidableEq

inductive Invocation where
  | help
  | version
  | validate (options : Validate)
  | generate (options : Generate)
  | importFile (options : Import)
  | showSettings (showsToken : Bool)
  | changeSetting (key value : String)
  | showPaths
  /--
  Store a token; it is asked for if it is missing. Words that do not belong to the command are
  found only after that.
  -/
  | storeToken (token : Option String) (hasSurplus : Bool)
  | clearCredentials (force : Bool)
deriving Repr, DecidableEq

namespace Invocation

def helpSwitch : Switch := { name := "--help" }

def verboseSwitch : Switch := { name := "--verbose", letter? := some 'v' }

def timeoutSwitch : Switch := { name := "--timeout", takesValue := true }

def findingsSwitch : Switch := { name := "--csv", takesValue := true }

def ownSwitches : List Switch :=
  [helpSwitch, { name := "--version", letter? := some 'V' }]

def validateSwitches : List Switch :=
  [ helpSwitch, verboseSwitch, timeoutSwitch, findingsSwitch,
    { name := "--export" }, { name := "--no-export" },
    { name := "--format", letter? := some 'f', takesValue := true } ]

def generateSwitches : List Switch :=
  [ helpSwitch, verboseSwitch, timeoutSwitch, findingsSwitch,
    { name := "--url", letter? := some 'u', takesValue := true },
    { name := "--validate" }, { name := "--export-errors" },
    { name := "--output", letter? := some 'o', takesValue := true },
    { name := "--publish" }, { name := "--no-publish" }, { name := "--with-content-type" },
    { name := "--content-type", takesValue := true }, { name := "--locale", takesValue := true } ]

def importSwitches : List Switch :=
  [ helpSwitch, verboseSwitch,
    { name := "--content-file", letter? := some 'c', takesValue := true },
    { name := "--space-id", takesValue := true }, { name := "--environment-id", takesValue := true },
    { name := "--management-token", takesValue := true },
    { name := "--env-file", takesValue := true } ]

def path? (words : Words) (name : String) : Option Path :=
  (words.value? name).map Path.ofText

def number? (words : Words) (name : String) : Option (Option Binary64) :=
  match words.value? name with
  | none => some none
  | some text => (readDecimal text).toOption.map some

def leaf? (switches : List Switch) (words : List String) (make : Words → Option Invocation) :
    Option Invocation := do
  let words ← Words.ofList? switches false words
  if words.has helpSwitch.name then return .help else make words

def bare? (switches : List Switch) (words : List String) (make : Words → Option Invocation) :
    Option Invocation :=
  leaf? switches words fun words => if words.plain.isEmpty then make words else none

def validate? (words : Words) : Option Invocation := do
  let timeout ← number? words "--timeout"
  match words.plain with
  | [url] => return .validate {
      url
      findingsFile := path? words "--csv"
      exports := (words.choice? "--export" "--no-export").getD true
      format := words.value? "--format"
      timeout
      verbose := words.has "--verbose" }
  | _ => none

def generate? (words : Words) : Option Invocation := do
  return .generate {
    url := words.value? "--url"
    validates := words.has "--validate"
    exportsFindings := words.has "--export-errors"
    findingsFile := path? words "--csv"
    importFile := path? words "--output"
    publish := words.choice? "--publish" "--no-publish"
    withContentType := words.has "--with-content-type"
    contentType := words.value? "--content-type"
    locale := words.value? "--locale"
    timeout := ← number? words "--timeout"
    verbose := words.has "--verbose" }

def import? (words : Words) : Option Invocation :=
  some <| .importFile {
    importFile := path? words "--content-file"
    spaceId := words.value? "--space-id"
    environmentId := words.value? "--environment-id"
    managementToken := words.value? "--management-token"
    environmentFile := (path? words "--env-file").getD (Path.ofText ".env")
    verbose := words.has "--verbose" }

def configure? (words : List String) : Option Invocation := do
  let own ← Words.ofList? [helpSwitch] true words
  if own.has helpSwitch.name then
    return .help
  else
    match own.plain with
    | "show" :: rest =>
      bare? [helpSwitch, { name := "--show-token" }] rest fun words =>
        some (.showSettings (words.has "--show-token"))
    | "set" :: rest =>
      leaf? [helpSwitch] rest fun words => match words.plain with
        | [key, value] => some (.changeSetting key value)
        | _ => none
    | "path" :: rest => bare? [helpSwitch] rest fun _ => some .showPaths
    | "set-token" :: rest =>
      leaf? [helpSwitch, { name := "--token", takesValue := true }] rest fun words =>
        some (.storeToken (words.value? "--token") !words.plain.isEmpty)
    | "clear-credentials" :: rest =>
      bare? [helpSwitch, { name := "--force" }] rest fun words =>
        some (.clearCredentials (words.has "--force"))
    | _ => none

def ofList? (words : List String) : Option Invocation := do
  let own ← Words.ofList? ownSwitches true words
  match own.options with
  | (name, _) :: _ => return if name = helpSwitch.name then .help else .version
  | [] =>
    match own.plain with
    | "validate" :: rest => leaf? validateSwitches rest validate?
    | "generate" :: rest => bare? generateSwitches rest generate?
    | "import" :: rest => bare? importSwitches rest import?
    | "config" :: rest => configure? rest
    | _ => none

end Invocation

end MarkdownIntake.Command
