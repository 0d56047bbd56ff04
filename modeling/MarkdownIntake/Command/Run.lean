import MarkdownIntake.Console.Notice
import MarkdownIntake.Import.Push
import MarkdownIntake.Review.Report
import MarkdownIntake.Settings.Override
import MarkdownIntake.Settings.Store
import MarkdownIntake.Text.Case
import MarkdownIntake.Web.Download

/-!
This module contains runs of the program: what a run finds, what it has done so far, and how it stops.
-/

namespace MarkdownIntake.Command

open MarkdownIntake.Console MarkdownIntake.Import MarkdownIntake.Review MarkdownIntake.Storage
open MarkdownIntake.Text MarkdownIntake.Web

structure World where
  files : Files := {}
  environment : Environment := {}
deriving Repr, DecidableEq

/-- What a run meets outside: the folder of its settings, servers, and the program that imports. -/
structure Outside where
  folder : Settings.Folder
  format : Settings.Format := Settings.yaml
  replies : Nat → Reply
  program : Program := {}

inductive Level where
  | debug
  | info
  | warning
deriving Repr, DecidableEq

/--
What a run logs, which goes to the error stream. The time of day that stands before it, and what the
libraries log that a run uses, are left out.
-/
structure Record where
  level : Level
  text : String
  /-- How much stood on the error stream before. -/
  place : Nat
deriving Repr, DecidableEq

structure Progress where
  world : World
  input : List String := []
  out : String := ""
  err : String := ""
  logged : List Record := []
  requests : List Request := []
  calls : List Call := []
  isColorOff : Bool := false

inductive Crash where
  | notDefined (error : VariableError)
  | notLoaded (error : Settings.LoadError)
  | notChanged (error : Settings.UpdateError)
  | badAddress (error : AddressError)
  | unreadable (code : CodeError)
  | notReviewed (error : ReviewError)
  | notReported (error : ReportError)
  | notWritten (error : Files.WriteError)
  | notPushed (error : PushError)

inductive Stop where
  | exit (code : Nat)
  | misuse
  | crash (error : Crash)

abbrev Run := ExceptT Stop (StateM Progress)

namespace Run

def say (text : String) : Run Unit :=
  modify fun progress => { progress with out := progress.out ++ text }

def complain (text : String) : Run Unit :=
  modify fun progress => { progress with err := progress.err ++ text }

def logAll (verbose : Bool) (level : Level) (texts : List String) : Run Unit :=
  if verbose || level = .warning then
    modify fun progress =>
      { progress with
        logged := progress.logged ++ texts.map fun text => { level, text, place := progress.err.length } }
  else
    pure ()

def log (verbose : Bool) (level : Level) (text : String) : Run Unit :=
  logAll verbose level [text]

def fail (message : String) (hint : Option String := none) : Run α := do
  complain (errorNotice message hint)
  throw (.exit 1)

def crash (error : Crash) : Run α :=
  throw (.crash error)

def orCrash (toCrash : ε → Crash) : Except ε α → Run α
  | .ok result => pure result
  | .error error => crash (toCrash error)

def files : Run Files := do
  return (← get).world.files

def environment : Run Environment := do
  return (← get).world.environment

def setFiles (files : Files) : Run Unit :=
  modify fun progress => { progress with world := { progress.world with files } }

def setEnvironment (environment : Environment) : Run Unit :=
  modify fun progress => { progress with world := { progress.world with environment } }

def abort : Run α := do
  complain (print "Aborted.")
  throw (.exit 1)

def readLine : Run (Option String) := do
  let progress ← get
  match progress.input with
  | [] => return none
  | line :: rest =>
    set { progress with input := rest }
    return some line

def ask (question : String) : Run String := do
  say (question ++ ": ")
  match ← readLine with
  | none => abort
  | some line =>
    say (line ++ "\n")
    return line

/-- What is printed while a line that is not shown is asked for until one is not empty, the line, and the rest. -/
def hiddenLine (question : String) : List String → String × Option String × List String
  | [] => (question ++ ": \n\n", none, [])
  | line :: rest =>
    if line.isEmpty then
      let (printed, line?, rest) := hiddenLine question rest
      (question ++ ": \n" ++ printed, line?, rest)
    else
      (question ++ ": \n", some line, rest)

def askHidden (question : String) : Run String := do
  let progress ← get
  let (printed, line?, rest) := hiddenLine question progress.input
  set { progress with input := rest }
  say printed
  match line? with
  | none => abort
  | some line => return line

def answerOf (line : String) : Option Bool :=
  match String.ofList (trim (lower line.toList)) with
  | "y" | "yes" => some true
  | "n" | "no" | "" => some false
  | _ => none

/-- What is printed while a yes or no is asked for, the answer, and the rest of the lines. -/
def decision (question : String) : List String → String × Option Bool × List String
  | [] => (question ++ " [y/N]: ", none, [])
  | line :: rest =>
    let printed := question ++ " [y/N]: " ++ line ++ "\n"
    match answerOf line with
    | some answer => (printed, some answer, rest)
    | none =>
      let (more, answer?, rest) := decision question rest
      (printed ++ "Error: invalid input\n" ++ more, answer?, rest)

def confirm (question : String) : Run Bool := do
  let progress ← get
  let (printed, answer?, rest) := decision question progress.input
  set { progress with input := rest }
  say printed
  match answer? with
  | none => abort
  | some answer => return answer

def settings (outside : Outside) (overrides : Settings.Overrides) : Run Settings := do
  let stored ← orCrash .notLoaded (Settings.load outside.format outside.folder (← files))
  match stored.effective (← environment) overrides with
  | .error error => fail error.message
  | .ok settings => return settings

def applyOutput (settings : Settings) (verbose : Bool) : Run Bool := do
  modify fun progress =>
    { progress with isColorOff := progress.isColorOff || !settings.output.color }
  return verbose || settings.output.verbose

end Run

end MarkdownIntake.Command
