import MarkdownIntake.Command.Run
import MarkdownIntake.Console.Table

/-!
This module contains the runs that show and change the settings and the management token.
-/

namespace MarkdownIntake.Command.Run

open MarkdownIntake.Console MarkdownIntake.Json

def valueText : Value → String
  | .bool b => if b then "True" else "False"
  | .int n => toString n
  | .real x => x.text
  | .str s => s
  | _ => "None"

def shownEnd : Nat := 4

def maskedToken (token : String) : String :=
  let cs := token.toList
  if 2 * shownEnd < cs.length then
    String.ofList (cs.take shownEnd) ++ "..." ++ String.ofList (cs.drop (cs.length - shownEnd))
  else if cs.isEmpty then
    ""
  else
    "****"

def settingRow (part name value : String) : List String :=
  [shown (escape s!"{part}.{name}"), shown (escape value)]

def settingsTable (settings : Settings) (token? : Option String) (showsToken : Bool) : Table :=
  let token := match token? with
    | none => "None"
    | some token => if showsToken then token else maskedToken token
  { title := "mdimport configuration"
    columns := [{ name := "Key" }, { name := "Value" }]
    rows :=
      (Settings.Section.all.flatMap fun part =>
        part.keys.map fun key => settingRow part.name key.name (valueText (settings.get key)))
        ++ [settingRow "credentials" Settings.tokenName token] }

def token? (outside : Outside) : Run (Option String) := do
  orCrash .notLoaded
    (Settings.loadToken outside.format outside.folder (← files) (← environment))

def showSettings (outside : Outside) (showsToken : Bool) : Run Unit := do
  let settings ← orCrash .notLoaded (Settings.load outside.format outside.folder (← files))
  let token? ← token? outside
  -- A table has the text of each number.
  unless settings.toJson.isTellable do crash (.notChanged .untellable)
  say ((settingsTable settings token? showsToken).draw)
  say (infoNotice s!"\nConfig directory: {outside.folder.path.text}")

def changeSetting (outside : Outside) (key value : String) : Run Unit := do
  match Settings.update outside.format outside.folder (← files) key (.str value) with
  | .ok files =>
    setFiles files
    say (successNotice s!"Set {key} = {value}")
  | .error error =>
    setFiles (error.filesLeft outside.folder (← files))
    match error with
    | .notLoaded error => crash (.notLoaded error)
    | .notChanged .overflow => crash (.notChanged .overflow)
    | .notChanged .wrongKind => crash (.notChanged .wrongKind)
    | .notChanged error => fail error.message

def showPaths (outside : Outside) : Run Unit :=
  let folder := outside.folder
  say <| printAll
    [ s!"Config directory: {folder.path.text}",
      s!"Config file: {folder.settingsFile.text}",
      s!"Credentials file: {folder.credentialsFile.text}" ]

def storeToken (outside : Outside) (token : Option String) (hasSurplus : Bool) : Run Unit := do
  let token ← match token with
    | some token => pure token
    | none => askHidden "Content management token"
  if hasSurplus then throw .misuse
  let _ ← token? outside
  setFiles (Settings.saveToken outside.format outside.folder (← files) (some token))
  say (successNotice "Management token saved")
  say (infoNotice s!"Credentials: {outside.folder.credentialsFile.text}")

def clearCredentials (outside : Outside) (force : Bool) : Run Unit := do
  unless force do
    unless ← confirm "Are you sure you want to remove stored credentials?" do abort
  setFiles (Settings.clearToken outside.folder (← files))
  say (successNotice "Credentials removed")

end MarkdownIntake.Command.Run
