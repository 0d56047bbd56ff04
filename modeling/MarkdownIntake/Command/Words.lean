/-!
This module contains the division of the words of a command line into options and plain words. An
option has a long name after two hyphens and perhaps a letter after one; letters may be put together.
-/

namespace MarkdownIntake.Command

structure Switch where
  name : String
  letter? : Option Char := none
  takesValue : Bool := false
deriving Repr, DecidableEq

structure Words where
  /-- The names of the options and their values; the value of one that takes none is empty. -/
  options : List (String × String) := []
  plain : List String := []
deriving Repr, DecidableEq

namespace Words

/--
The options in a word of letters. The last one may need the next word as its value; any other
that takes a value has the rest of the word as it.
-/
def letters? (switches : List Switch) : List Char → Option (List (String × String) × Option String)
  | [] => some ([], none)
  | c :: rest =>
    match switches.find? (·.letter? = some c) with
    | none => none
    | some switch =>
      if switch.takesValue then
        if rest.isEmpty then some ([], some switch.name)
        else some ([(switch.name, String.ofList rest)], none)
      else
        (letters? switches rest).map fun (options, open?) => ((switch.name, "") :: options, open?)

def divide (word : String) : String × Option String :=
  let cs := word.toList
  let name := cs.takeWhile (· ≠ '=')
  match cs.drop name.length with
  | [] => (word, none)
  | _ :: value => (String.ofList name, some (String.ofList value))

def isOption (word : String) : Bool :=
  match word.toList with
  | '-' :: _ :: _ => true
  | _ => false

/-- What the start of a word says: options, and one that needs the next word as its value. -/
def optionsIn? (switches : List Switch) (word : String) :
    Option (List (String × String) × Option String) :=
  let (name, value?) := divide word
  match switches.find? (·.name = name), value? with
  | some switch, some value => if switch.takesValue then some ([(name, value)], none) else none
  | some switch, none => some (if switch.takesValue then ([], some name) else ([(name, "")], none))
  | none, _ => if word.startsWith "--" then none else letters? switches (word.toList.drop 1)

/--
Divide the words of a command line, if all options are known and have their values. With
`stopsAtPlain`, the first plain word ends the options; otherwise only two hyphens do.
-/
def ofList? (switches : List Switch) (stopsAtPlain : Bool) : List String → Option Words
  | [] => some {}
  | word :: rest =>
    if word = "--" then
      some { plain := rest }
    else if isOption word then
      match optionsIn? switches word with
      | none => none
      | some (options, none) =>
        (ofList? switches stopsAtPlain rest).map fun words =>
          { words with options := options ++ words.options }
      | some (options, some name) =>
        match rest with
        | [] => none
        | value :: rest =>
          (ofList? switches stopsAtPlain rest).map fun words =>
            { words with options := options ++ (name, value) :: words.options }
    else if stopsAtPlain then
      some { plain := word :: rest }
    else
      (ofList? switches stopsAtPlain rest).map fun words => { words with plain := word :: words.plain }

def value? (words : Words) (name : String) : Option String :=
  words.options.reverse.lookup name

def has (words : Words) (name : String) : Bool :=
  (words.value? name).isSome

def choice? (words : Words) (yes no : String) : Option Bool :=
  (words.options.reverse.find? fun option => option.1 = yes || option.1 = no).map (·.1 = yes)

end Words

end MarkdownIntake.Command
