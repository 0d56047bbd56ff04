import MarkdownIntake.Command.Session
import MarkdownIntake.Storage.EnvironmentFile

/-!
This module contains the program: it reads the files and variables that a run may need, runs the command
line, and writes what the run has printed and changed. It has no connection to servers and starts no
other program, so a run meets neither.
-/

namespace MarkdownIntake.Main

open MarkdownIntake.Command MarkdownIntake.Storage

def folder : IO Settings.Folder := do
  let base ← match ← IO.getEnv "XDG_CONFIG_HOME" with
    | some base => pure base
    | none => pure ((← IO.getEnv "HOME").getD "." ++ "/.config")
  return { path := (Path.ofText base).join (Path.ofText "mdimport") }

def addFile (files : Files) (path : Path) : IO Files := do
  try
    return files.write path (← IO.FS.readFile path.text)
  catch _ =>
    return files

def readFiles (folder : Settings.Folder) (words : List String) : IO Files := do
  let fixed := [folder.settingsFile, folder.credentialsFile, Path.ofText ".env"]
  let files ← (fixed ++ words.map Path.ofText).foldlM addFile {}
  match Settings.load Settings.yaml folder files with
  | .ok settings => addFile files settings.importPath
  | .error _ => return files

def readEnvironment (files : Files) : IO Environment := do
  let own := [Settings.spaceVariable, Settings.environmentVariable, Settings.tokenVariable]
  let names := own ++ files.entries.flatMap fun (_, text) => (Binding.ofText text).map (·.name)
  names.foldlM
    (fun environment name => do
      match ← IO.getEnv name with
      | some value => return environment.set name value
      | none => return environment)
    {}

def asks : Invocation → Bool
  | .generate options => options.url.all (·.isEmpty)
  | .storeToken token _ => token.isNone
  | .clearCredentials force => !force
  | _ => false

def readInput (words : List String) : IO String := do
  if (Invocation.ofList? words).any asks then (← IO.getStdin).readToEnd else return ""

/-- Write a change of a file to the disk; the file with the token is kept from others. -/
def writeChange (folder : Settings.Folder) (path : Path) (text? : Option String) : IO Unit := do
  match text? with
  | none => IO.FS.removeFile path.text
  | some text =>
    for parent in (Files.foldersOf path).take 1 do
      IO.FS.createDirAll parent.text
    IO.FS.writeFile path.text text
    if path = folder.credentialsFile.place then
      IO.setAccessRights path.text { user := { read := true, write := true } }

end MarkdownIntake.Main

open MarkdownIntake MarkdownIntake.Main in
def main (words : List String) : IO UInt32 := do
  let folder ← folder
  let files ← readFiles folder words
  let environment ← readEnvironment files
  let outside : Command.Outside :=
    { folder, replies := fun _ => .broken "no connection", program := { installed := false } }
  let outcome := Command.run outside { files, environment } words (← readInput words)
  for (path, text?) in files.changes outcome.progress.world.files do
    writeChange folder path text?
  IO.print outcome.progress.out
  IO.eprint outcome.progress.err
  return UInt32.ofNat outcome.exitCode
