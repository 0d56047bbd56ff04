import MarkdownIntake.Text.CodePoint
import MarkdownIntake.Text.Lines

/-!
This module contains the location of a snippet in the source text. Nodes carry no positions, so a
finding is located by the first occurrence of the Markdown that it was read from.
-/

namespace MarkdownIntake.Document

open MarkdownIntake.Text

inductive Place (σ : Type := String) where
  | line (number : Int)
  | unknown
  /-- A place given by words of the caller's own. -/
  | labelled (label : σ)
deriving Repr, DecidableEq, Inhabited

def Place.unknownLabel : String := "Unknown"

def Place.text {σ : Type} [Spelled σ] : Place σ → σ
  | .line number => Spelled.ofString (toString number)
  | .unknown => Spelled.ofString unknownLabel
  | .labelled label => label

def findLine? (markdown snippet : String) (start : Int) : Option Nat :=
  let text := markdown.toList
  (find? text snippet.toList start).map fun index => (text.take index).count '\n' + 1

def locate (markdown : String) (snippets : List String) : Place :=
  match snippets.findSome? (findLine? markdown · 0) with
  | some number => .line number
  | none => .unknown

end MarkdownIntake.Document
