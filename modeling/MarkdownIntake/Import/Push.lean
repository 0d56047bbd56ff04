import MarkdownIntake.Text.Utf8

/-!
This module contains the push of an import document to a space with an outside program: the command
line of the program, the form of it that may be shown, and what the end of the program means.
-/

namespace MarkdownIntake.Import

open MarkdownIntake.Text

structure Target where
  spaceId : String
  environmentId : String
  managementToken : Option String := none
deriving Repr, DecidableEq

inductive PushError where
  | noSpace
  | noEnvironment
  | noProgram
  | zeroInWord
deriving Repr, DecidableEq

def PushError.message : PushError → String
  | .noSpace => "Contentful space ID is required"
  | .noEnvironment => "Contentful environment ID is required"
  | .noProgram =>
    "contentful CLI not found in PATH. Install it with 'npm install -g contentful-cli'."
  | .zeroInWord => "embedded null byte"

def tokenOption : String := "--management-token"

def command (target : Target) (file : String) : Except PushError (List String) :=
  if target.spaceId.isEmpty then .error .noSpace
  else if target.environmentId.isEmpty then .error .noEnvironment
  else
    let secret := match target.managementToken with
      | none | some "" => []
      | some token => [tokenOption, token]
    .ok <|
      ["contentful", "space", "import", "--space-id", target.spaceId,
        "--environment-id", target.environmentId, "--content-file", file] ++ secret

def hiddenToken : String := "****"

/-- A command line with the word after the first token option hidden. -/
def masked : List String → List String
  | [] => []
  | word :: rest =>
    if word = tokenOption then
      match rest with
      | [] => [word]
      | _ :: rest => word :: hiddenToken :: rest
    else
      word :: masked rest

inductive Ending where
  | exited (code : Int)
  | timedOut
  | notStarted (reason : String)
deriving Repr, DecidableEq

def defaultTimeout : Int := 600

structure PushResult where
  success : Bool
  shownCommand : List String
  exitCode : Option Int := none
  error : Option String := none
deriving Repr, DecidableEq

def pushResult (command : List String) (timeout : Int) : Ending → PushResult
  | .exited 0 => { success := true, shownCommand := masked command, exitCode := some 0 }
  | .exited code =>
    { success := false
      shownCommand := masked command
      exitCode := some code
      error := some s!"Command failed with exit code {code}" }
  | .timedOut =>
    { success := false
      shownCommand := masked command
      error := some s!"Import timed out after {timeout}s" }
  | .notStarted reason =>
    { success := false, shownCommand := masked command, error := some reason }

def Ending.note? (timeout : Int) : Ending → Option String
  | .exited _ => none
  | .timedOut => some s!"contentful import timed out after {timeout}s"
  | .notStarted reason => some s!"contentful import could not be started: {reason}"

structure Call where
  command : List String
  timeout : Int
deriving Repr, DecidableEq

def Call.isPassable (call : Call) : Bool :=
  !call.command.any hasZero

structure Program where
  installed : Bool := true
  ending : Ending := .exited 0
deriving Repr, DecidableEq

def push (program : Program) (target : Target) (file : String) (timeout : Int := defaultTimeout) :
    Except PushError (Call × PushResult) :=
  if program.installed then do
    let command ← command target file
    return ({ command, timeout }, pushResult command timeout program.ending)
  else
    .error .noProgram

end MarkdownIntake.Import
