import MarkdownIntake.Text.Utf8

/-!
This module contains the variables that a program is started with, and those that it defines.
-/

namespace MarkdownIntake.Storage

open MarkdownIntake.Text

inductive VariableError where
  | zeroInside
  | badName
deriving Repr, DecidableEq

def VariableError.message : VariableError → String
  | .zeroInside => "embedded null byte"
  | .badName => "illegal environment variable name"

structure Environment where
  entries : List (String × String) := []
deriving Repr, DecidableEq, Inhabited

namespace Environment

def get? (environment : Environment) (name : String) : Option String :=
  environment.entries.lookup name

def nonempty? (environment : Environment) (name : String) : Option String :=
  (environment.get? name).filter (!·.isEmpty)

def unset (environment : Environment) (name : String) : Environment :=
  { entries := environment.entries.filter (·.1 ≠ name) }

def set (environment : Environment) (name value : String) : Environment :=
  { entries := (name, value) :: (environment.unset name).entries }

def fault? (name value : String) : Option VariableError :=
  if hasZero name || hasZero value then some .zeroInside
  else if name.toList.contains '=' then some .badName
  else none

def define (environment : Environment) :
    List (String × String) → Option VariableError × Environment
  | [] => (none, environment)
  | (name, value) :: rest =>
    match fault? name value with
    | some error => (some error, environment)
    | none => (environment.set name value).define rest

end Environment

end MarkdownIntake.Storage
