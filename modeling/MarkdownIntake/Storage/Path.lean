import MarkdownIntake.Text.Lines

/-!
This module contains paths of files. A path is kept without empty parts and without the part `.`, so
that two texts name the same path if only those set them apart. The part `..` stays.
-/

namespace MarkdownIntake.Storage

open MarkdownIntake.Text

structure Path where
  /-- One or two slashes for a path that starts at a root, and nothing for any other. -/
  root : String := ""
  parts : List String := []
deriving Repr, DecidableEq, Inhabited

namespace Path

/-- The slashes at the start of a text that make up a root: two only if there are exactly two. -/
def rootOf (cs : List Char) : String :=
  match (cs.takeWhile (· = '/')).length with
  | 0 => ""
  | 2 => "//"
  | _ => "/"

def ofText (text : String) : Path :=
  let cs := text.toList
  { root := rootOf cs
    parts := ((splitAt '/' cs).map String.ofList).filter fun part => part ≠ "" && part ≠ "." }

def text (path : Path) : String :=
  let text := path.root ++ String.intercalate "/" path.parts
  if text.isEmpty then "." else text

/-- The path from a folder on; a path that starts at a root does so from everywhere. -/
def join (folder path : Path) : Path :=
  if path.root.isEmpty then { folder with parts := folder.parts ++ path.parts } else path

def step (parts : List String) (part : String) : List String :=
  if part = ".." then
    match parts.getLast? with
    | none | some ".." => parts ++ [part]
    | some _ => parts.dropLast
  else
    parts ++ [part]

def place (path : Path) : Path :=
  { path with parts := path.parts.foldl step [] }

def isAround (path : Path) : Bool :=
  path.place.parts.getLast?.all (· = "..")

end Path

end MarkdownIntake.Storage
