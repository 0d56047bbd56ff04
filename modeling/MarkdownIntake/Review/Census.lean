import MarkdownIntake.Document.Node

/-!
This module contains the census of a document: how many elements of each kind it has.
-/

namespace MarkdownIntake.Review

open MarkdownIntake.Document

structure Census (σ : Type := String) where
  headings : Nat
  headingLevels : List (Option Int × Nat)
  codeBlocks : Nat
  languages : List σ
  images : Nat
  tables : Nat
  blockquotes : Nat
  lists : Nat
  links : Nat
deriving Repr, BEq

def topHeadings (forest : List Node) : List Node :=
  forest.filter (·.is "heading")

def surfaceImages (forest : List Node) : List Node :=
  (surface forest).filter (·.is "image")

def noLanguage : String := "no-lang"

def languageLabel (node : Node) : String :=
  match node.lang with
  | none => noLanguage
  | some lang => if lang.isEmpty then noLanguage else lang

def countLevel (level : Option Int) : List (Option Int × Nat) → List (Option Int × Nat)
  | [] => [(level, 1)]
  | (other, count) :: rest =>
    if other = level then (other, count + 1) :: rest else (other, count) :: countLevel level rest

def insertLevel (entry : Option Int × Nat) : List (Option Int × Nat) → List (Option Int × Nat)
  | [] => [entry]
  | other :: rest =>
    if entry.1.getD 0 ≤ other.1.getD 0 then entry :: other :: rest
    else other :: insertLevel entry rest

def headingLevels (headings : List Node) : List (Option Int × Nat) :=
  (headings.foldl (fun counts heading => countLevel heading.depth counts) []).foldr insertLevel []

/--
Whether the levels can be put in order: a missing level cannot be compared with another one.
-/
def levelsComparable (levels : List (Option Int × Nat)) : Bool :=
  levels.length < 2 || levels.all (·.1.isSome)

def addNew (texts : List String) (text : String) : List String :=
  if texts.contains text then texts else texts ++ [text]

def census (forest : List Node) : Census :=
  let count (kind : String) := (forest.filter (·.is kind)).length
  let headings := topHeadings forest
  { headings := headings.length
    headingLevels := headingLevels headings
    codeBlocks := count "code"
    languages := ((forest.filter (·.is "code")).map languageLabel).foldl addNew []
    images := (surfaceImages forest).length
    tables := count "table"
    blockquotes := count "blockquote"
    lists := count "list"
    links := (links forest).length }

end MarkdownIntake.Review
