import MarkdownIntake.Text.Lines
import MarkdownIntake.Yaml.Meaning
import MarkdownIntake.Yaml.Tokens

/-!
This module contains the reading of YAML text.
-/

namespace MarkdownIntake.Yaml

open MarkdownIntake.Text

def parseCharacters (cs : List Char) : Except Error Value :=
  match Tokens.ofText? (unifyLineEnds cs) with
  | none => .error .malformed
  | some tokens => do
    match ← Node.ofTokens tokens with
    | none => return .null
    | some node => node.value

def parse (text : String) : Except Error Value :=
  parseCharacters text.toList

end MarkdownIntake.Yaml
