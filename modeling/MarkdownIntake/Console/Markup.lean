import MarkdownIntake.Text.Lines

/-!
This module contains marked-up text: a tag in square brackets styles the text after it, and a backslash
in front of a tag makes it plain text. What a console without colours shows of it is the text between
the tags.
-/

namespace MarkdownIntake.Console

def startsTag (c : Char) : Bool :=
  ('a' ≤ c && c ≤ 'z') || c = '#' || c = '/' || c = '@'

def tagLength? (cs : List Char) : Option Nat :=
  match cs with
  | '[' :: c :: rest =>
    if startsTag c then
      let inner := rest.takeWhile fun d => d ≠ '[' && d ≠ ']'
      if (rest.drop inner.length).head? == some ']' then some (inner.length + 3) else none
    else
      none
  | _ => none

inductive Piece where
  | tag (backslashes : Nat) (text : List Char)
  | char (backslashes : Nat) (c : Char)
  | ending (backslashes : Nat)

/-- The pieces of a text, where `count` backslashes stand in front of it. -/
def pieces (count : Nat) (cs : List Char) : List Piece :=
  match cs with
  | [] => [.ending count]
  | '\\' :: rest => pieces (count + 1) rest
  | c :: rest =>
    match tagLength? (c :: rest) with
    | some length => .tag count ((c :: rest).take length) :: pieces 0 (rest.drop (length - 1))
    | none => .char count c :: pieces 0 rest
termination_by cs.length

def backslashRun (count : Nat) : List Char :=
  List.replicate count '\\'

def Piece.escaped : Piece → List Char
  | .tag count text => backslashRun (2 * count + 1) ++ text
  | .char count c => backslashRun count ++ [c]
  -- A single backslash is doubled because a tag may follow.
  | .ending count => backslashRun (if count = 1 then 2 else count)

/-- What is shown of a piece. A backslash in front of a bracket that starts no tag is dropped too. -/
def Piece.shown : Piece → List Char
  | .tag count text => backslashRun (count / 2) ++ (if count % 2 = 1 then text else [])
  | .char count c => backslashRun (if c = '[' then count - 1 else count) ++ [c]
  | .ending count => backslashRun count

def escape (text : String) : String :=
  String.ofList ((pieces 0 text.toList).flatMap Piece.escaped)

def shown (markup : String) : String :=
  String.ofList ((pieces 0 markup.toList).flatMap Piece.shown)

end MarkdownIntake.Console
