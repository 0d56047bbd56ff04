import MarkdownIntake.Document.Node

/-!
This module contains forests under construction. New nodes go below the container that was opened
last; a container is put below the one around it when it is closed, and at the end if it never is.
-/

namespace MarkdownIntake.Document

def Node.adopt (node : Node) (nodes : List Node) : Node :=
  { node with children := node.children ++ nodes }

/-- A forest under construction. Each open container has a note that goes with it. -/
structure Scaffold (α : Type) where
  complete : List Node := []
  /-- The open containers, the innermost one first, each without the one that is open inside it. -/
  opened : List (Node × α) := []

namespace Scaffold

variable {α : Type}

def modify (scaffold : Scaffold α) (change : Node × α → Node × α) : Scaffold α :=
  match scaffold.opened with
  | [] => scaffold
  | innermost :: outer => { scaffold with opened := change innermost :: outer }

def add (scaffold : Scaffold α) (nodes : List Node) : Scaffold α :=
  match scaffold.opened with
  | [] => { scaffold with complete := scaffold.complete ++ nodes }
  | (node, note) :: outer => { scaffold with opened := (node.adopt nodes, note) :: outer }

def push (scaffold : Scaffold α) (node : Node) (note : α) : Scaffold α :=
  { scaffold with opened := (node, note) :: scaffold.opened }

def close (scaffold : Scaffold α) : Scaffold α :=
  match scaffold.opened with
  | [] => scaffold
  | (node, _) :: outer => { scaffold with opened := outer }.add [node]

def forest (scaffold : Scaffold α) : List Node :=
  scaffold.complete
    ++ scaffold.opened.foldl (fun inner (container, _) => [container.adopt inner]) []

end Scaffold

end MarkdownIntake.Document
