import MarkdownIntake.Json.Value

/-!
This module contains the values that YAML texts stand for.
-/

namespace MarkdownIntake.Yaml

open MarkdownIntake.Number

inductive Value where
  | null
  | bool (value : Bool)
  | int (value : Int)
  | real (value : Binary64)
  | text (value : String)
  | bytes (value : List Nat)
  | moment
  | list (items : List Value)
  | map (entries : List (Value × Value))
  /-- The keys of a map whose values do not matter. -/
  | set (items : List Value)
deriving Repr, Inhabited

namespace Value

def isEmpty : Value → Bool
  | .null => true
  | .bool value => !value
  | .int value => value = 0
  | .real value => value.isZero
  | .text value => value.isEmpty
  | .bytes value => value.isEmpty
  | .moment => false
  | .list items => items.isEmpty
  | .map entries => entries.isEmpty
  | .set items => items.isEmpty

def isText (name : String) : Value → Bool
  | .text value => value = name
  | _ => false

def entry? (name : String) (entries : List (Value × Value)) : Option Value :=
  (entries.reverse.find? fun entry => entry.1.isText name).map (·.2)

def hasTextKeys (entries : List (Value × Value)) : Bool :=
  entries.all fun
    | (.text _, _) => true
    | _ => false

mutual

def ofJson : Json.Value → Value
  | .null => .null
  | .bool value => .bool value
  | .int value => .int value
  | .real value => .real value
  | .str value => .text value
  | .arr items => .list (ofItems items)
  | .obj members => .map (ofMembers members)

def ofItems : List Json.Value → List Value
  | [] => []
  | item :: rest => ofJson item :: ofItems rest

def ofMembers : List (String × Json.Value) → List (Value × Value)
  | [] => []
  | (name, value) :: rest => (.text name, ofJson value) :: ofMembers rest

end

attribute [simp] ofJson ofItems ofMembers

end Value

end MarkdownIntake.Yaml
