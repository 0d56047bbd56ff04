import MarkdownIntake.Storage.Environment
import MarkdownIntake.Text.Blank
import MarkdownIntake.Text.Lines

/-!
This module contains files with variables, one to a line: a name, an equals sign and a value, perhaps
in quotes. A line that does not have this form is passed over. A value may refer to other variables.
-/

namespace MarkdownIntake.Storage

open MarkdownIntake.Text

/-- A variable as it stands in a file; a name may stand there without a value. -/
structure Binding where
  name : String
  value? : Option String
deriving Repr, DecidableEq

namespace Binding

def isGap (c : Char) : Bool :=
  isBlank c && c ≠ '\n'

/-- Reading of a part, which gives what stands after it; on failure, where it stopped. -/
abbrev Read (α : Type) := Except (List Char) (α × List Char)

def skipExport (cs : List Char) : List Char :=
  let word := "export".toList
  if word.isPrefixOf cs && (cs.drop word.length).head?.any isGap then
    (cs.drop word.length).dropWhile isGap
  else
    cs

def readName (cs : List Char) : Read (Option String) :=
  match cs with
  | '#' :: _ => .ok (none, cs)
  | '\'' :: rest =>
    let name := rest.takeWhile (· ≠ '\'')
    match rest.drop name.length with
    | _ :: after => if name.isEmpty then .error cs else .ok (some (String.ofList name), after)
    | [] => .error cs
  | _ =>
    let name := cs.takeWhile fun c => c ≠ '=' && c ≠ '#' && !isBlank c
    if name.isEmpty then .error cs else .ok (some (String.ofList name), cs.drop name.length)

def readQuoted? (quote : Char) : List Char → Option (List Char × List Char)
  | [] => none
  | '\\' :: c :: rest =>
    if c = quote then
      match readQuoted? quote rest with
      | some (text, after) => some ('\\' :: c :: text, after)
      -- Without another quote to come, this one ends the text in spite of the backslash.
      | none => some (['\\'], rest)
    else
      (readQuoted? quote (c :: rest)).map fun (text, after) => ('\\' :: text, after)
  | c :: rest =>
    if c = quote then some ([], rest)
    else (readQuoted? quote rest).map fun (text, after) => (c :: text, after)

def singleEscape? (c : Char) : Option Char :=
  if c = '\\' || c = '\'' then some c else none

def doubleEscape? (c : Char) : Option Char :=
  match c with
  | '\\' | '\'' | '"' => some c
  | 'a' => some '\x07'
  | 'b' => some '\x08'
  | 'f' => some '\x0c'
  | 'n' => some '\n'
  | 'r' => some '\r'
  | 't' => some '\t'
  | 'v' => some '\x0b'
  | _ => none

def unescape (escape? : Char → Option Char) : List Char → List Char
  | '\\' :: c :: rest =>
    match escape? c with
    | some d => d :: unescape escape? rest
    | none => '\\' :: unescape escape? (c :: rest)
  | c :: rest => c :: unescape escape? rest
  | [] => []

def withoutComment (cs : List Char) : List Char :=
  match cs with
  | [] => []
  | c :: rest =>
    if isBlank c && (cs.dropWhile isBlank).head? == some '#' then [] else c :: withoutComment rest

def readValue (cs : List Char) : Read String :=
  let quoted (quote : Char) (escape? : Char → Option Char) (rest : List Char) : Read String :=
    match readQuoted? quote rest with
    | some (text, after) => .ok (String.ofList (unescape escape? text), after)
    | none => .error cs
  match cs with
  | '\'' :: rest => quoted '\'' singleEscape? rest
  | '"' :: rest => quoted '"' doubleEscape? rest
  | _ =>
    let line := cs.takeWhile (· ≠ '\n')
    .ok (String.ofList (trimRight (withoutComment line)), cs.drop line.length)

def readLineEnd (cs : List Char) : Read Unit :=
  let rest := cs.dropWhile isGap
  let rest := if rest.head? == some '#' then rest.dropWhile (· ≠ '\n') else rest
  match rest with
  | [] => .ok ((), [])
  | '\n' :: after => .ok ((), after)
  | _ => .error rest

def readLine (cs : List Char) : Except (List Char) (Option Binding × List Char) := do
  let (name?, rest) ← readName (skipExport cs)
  let rest := rest.dropWhile isGap
  let (value?, rest) ← match rest with
    | '=' :: rest =>
      (readValue (rest.dropWhile isGap)).map fun (value, rest) => (some value, rest)
    | _ => .ok (none, rest)
  let ((), rest) ← readLineEnd rest
  return (name?.map fun name => { name, value? }, rest)

def readLines : (fuel : Nat) → List Char → List Binding
  | 0, _ => []
  | fuel + 1, cs =>
    match cs.dropWhile isBlank with
    | [] => []
    | rest =>
      match readLine rest with
      | .ok (binding?, rest) => binding?.toList ++ readLines fuel rest
      | .error rest => readLines fuel ((rest.dropWhile (· ≠ '\n')).drop 1)

def ofText (text : String) : List Binding :=
  let cs := unifyLineEnds text.toList
  readLines (cs.length + 1) cs

/-- A reference to a variable: its name, the text to be used without it, and what stands after it. -/
def reference? (cs : List Char) : Option (String × List Char × List Char) :=
  match cs with
  | '$' :: '\x7b' :: rest =>
    let name := rest.takeWhile fun c => c ≠ '\x7d' && c ≠ ':'
    match rest.drop name.length with
    | '\x7d' :: after => some (String.ofList name, [], after)
    | ':' :: '-' :: rest =>
      let otherwise := rest.takeWhile (· ≠ '\x7d')
      match rest.drop otherwise.length with
      | _ :: after => some (String.ofList name, otherwise, after)
      | [] => none
    | _ => none
  | _ => none

def expand (valueOf : String → Option String) : (fuel : Nat) → List Char → List Char
  | 0, cs => cs
  | _, [] => []
  | fuel + 1, c :: rest =>
    match reference? (c :: rest) with
    | some (name, otherwise, after) =>
      ((valueOf name).map String.toList).getD otherwise ++ expand valueOf fuel after
    | none => c :: expand valueOf fuel rest

def assign (name : String) (value? : Option String) :
    List (String × Option String) → List (String × Option String)
  | [] => [(name, value?)]
  | entry :: rest =>
    if entry.1 = name then (name, value?) :: rest else entry :: assign name value? rest

/--
The values of variables, each of which may refer to those before it. The environment counts more
than they do.
-/
def values (environment : Environment) (bindings : List Binding) : List (String × Option String) :=
  bindings.foldl
    (fun known binding =>
      let valueOf (name : String) : Option String :=
        (environment.get? name).or ((known.lookup name).map (·.getD ""))
      let value? := binding.value?.map fun value =>
        String.ofList (expand valueOf value.toList.length value.toList)
      assign binding.name value? known)
    []

end Binding

def Environment.missing (environment : Environment) (text : String) : List (String × String) :=
  (Binding.values environment (Binding.ofText text)).filterMap fun (name, value?) =>
    if (environment.get? name).isSome then none else value?.map (name, ·)

def Environment.load (environment : Environment) (text : String) : Option VariableError × Environment :=
  environment.define (environment.missing text)

end MarkdownIntake.Storage
