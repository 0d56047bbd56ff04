import MarkdownIntake.Markdown.Entity

/-!
This module contains the destination and the title of a link, each read at the start of a text. A
destination is either in angle brackets or a run without spaces whose round brackets are balanced.
-/

namespace MarkdownIntake.Markdown

def maxOpenBrackets : Nat := 32

/-- Read a destination up to the closing angle bracket; `out` holds what was read, reversed. -/
def readAngled? : List Char → List Char → Option (List Char × List Char)
  | [], _ => none
  | '\\' :: c :: rest, out => readAngled? rest (c :: '\\' :: out)
  | c :: rest, out =>
    if c = '\n' || c = '<' then none
    else if c = '>' then some (unescape out.reverse, rest)
    else readAngled? rest (c :: out)

/--
Read a destination without angle brackets: its characters, reversed, and the rest. `level` is the
number of round brackets that are open.
-/
def readBare? : (level : Nat) → List Char → List Char → Option (List Char × List Char)
  | level, [], out => if level = 0 then some (out, []) else none
  | level, '\\' :: c :: rest, out =>
    if c = ' ' then
      if level = 0 then some (out, '\\' :: c :: rest) else none
    else
      readBare? level rest (c :: '\\' :: out)
  | level, c :: rest, out =>
    if c.toNat ≤ 32 || c.toNat = 127 then
      if level = 0 then some (out, c :: rest) else none
    else if c = '(' then
      if level < maxOpenBrackets then readBare? (level + 1) rest (c :: out) else none
    else if c = ')' then
      match level with
      | 0 => some (out, c :: rest)
      | level + 1 => readBare? level rest (c :: out)
    else
      readBare? level rest (c :: out)

def readDestination? (cs : List Char) : Option (List Char × List Char) :=
  match cs with
  | '<' :: rest => readAngled? rest []
  | _ =>
    match readBare? 0 cs [] with
    | none => none
    | some (out, rest) => if out.isEmpty then none else some (unescape out.reverse, rest)

def readTitleBody? (closer : Char) : List Char → List Char → Option (List Char × List Char)
  | [], _ => none
  | '\\' :: c :: rest, out => readTitleBody? closer rest (c :: '\\' :: out)
  | c :: rest, out =>
    if c = closer then some (unescape out.reverse, rest)
    else if c = '(' && closer = ')' then none
    else readTitleBody? closer rest (c :: out)

def readTitle? (cs : List Char) : Option (List Char × List Char) :=
  match cs with
  | '"' :: rest => readTitleBody? '"' rest []
  | '\'' :: rest => readTitleBody? '\'' rest []
  | '(' :: rest => readTitleBody? ')' rest []
  | _ => none

end MarkdownIntake.Markdown
