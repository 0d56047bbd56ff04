import MarkdownIntake.Command.Configure
import MarkdownIntake.Command.Documents

/-!
This module contains the run of a command line in a world, and what comes of it.
-/

namespace MarkdownIntake.Command

open MarkdownIntake.Console MarkdownIntake.Text

def programVersion : String := "0.3.1"

def usage : String :=
  printAll
    [ "Usage: mdimport [--version] COMMAND",
      "",
      "Validate markdown documents and generate Contentful import files.",
      "",
      "Commands:",
      "  validate URL              Check a document and export its findings",
      "  generate                  Build an import file from a document",
      "  import                    Push an import file to a space",
      "  config show               Show the settings",
      "  config set KEY VALUE      Change a setting",
      "  config path               Show the paths of the settings",
      "  config set-token          Store a management token",
      "  config clear-credentials  Remove the stored token" ]

def Invocation.run (outside : Outside) : Invocation → Run Unit
  | .help => Run.say usage
  | .version => Run.say (print s!"mdimport version {programVersion}")
  | .validate options => Run.validate outside options
  | .generate options => Run.generate outside options
  | .importFile options => Run.importFile outside options
  | .showSettings showsToken => Run.showSettings outside showsToken
  | .changeSetting key value => Run.changeSetting outside key value
  | .showPaths => Run.showPaths outside
  | .storeToken token hasSurplus => Run.storeToken outside token hasSurplus
  | .clearCredentials force => Run.clearCredentials outside force

structure Outcome where
  stop? : Option Stop
  progress : Progress

def Outcome.exitCode (outcome : Outcome) : Nat :=
  match outcome.stop? with
  | none => 0
  | some (.exit code) => code
  | some .misuse => 2
  | some (.crash _) => 1

def typedLines (text : String) : List String :=
  let pieces := lines (unifyLineEnds text.toList)
  let pieces := if pieces.getLast? == some [] then pieces.dropLast else pieces
  pieces.map String.ofList

def Run.outcome (part : Run Unit) (world : World) (input : String) : Outcome :=
  match (ExceptT.run part).run { world, input := typedLines input } with
  | (.ok (), progress) => { stop? := none, progress }
  | (.error stop, progress) => { stop? := some stop, progress }

def run (outside : Outside) (world : World) (words : List String) (input : String) : Outcome :=
  match Invocation.ofList? words with
  | none => Run.outcome (do Run.complain usage; throw .misuse) world input
  | some command => (command.run outside).outcome world input

end MarkdownIntake.Command
