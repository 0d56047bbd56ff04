import MarkdownIntake.Storage.Path

/-!
This module contains the files that a program works with: texts under the places of their paths, in
the order in which they were first written.
-/

namespace MarkdownIntake.Storage

structure Files where
  entries : List (Path × String) := []
deriving Repr, DecidableEq, Inhabited

namespace Files

def read? (files : Files) (path : Path) : Option String :=
  files.entries.lookup path.place

def put (place : Path) (text : String) : List (Path × String) → List (Path × String)
  | [] => [(place, text)]
  | entry :: rest =>
    if entry.1 = place then (place, text) :: rest else entry :: put place text rest

def write (files : Files) (path : Path) (text : String) : Files :=
  { entries := put path.place text files.entries }

def remove (files : Files) (path : Path) : Files :=
  { entries := files.entries.filter (·.1 ≠ path.place) }

def isFolder (files : Files) (path : Path) : Bool :=
  let place := path.place
  files.entries.any fun (file, _) =>
    file.root = place.root && place.parts.length < file.parts.length
      && place.parts.isPrefixOf file.parts

/-- Whether a path is a file or a folder. The folder of the program and those around it are folders. -/
def exists? (files : Files) (path : Path) : Bool :=
  path.isAround || (files.read? path).isSome || files.isFolder path

def foldersOf (path : Path) : List Path :=
  let place := path.place
  (List.range place.parts.length).reverse.map fun count => { place with parts := place.parts.take count }

inductive WriteError where
  | isFolder
  | folderIsFile
  | belowFile
deriving Repr, DecidableEq

def obstacle? (files : Files) (path : Path) : Option WriteError :=
  if path.isAround || files.isFolder path then
    some .isFolder
  else
    match foldersOf path with
    | [] => none
    | folder :: others =>
      if (files.read? folder).isSome then some .folderIsFile
      else if others.any fun other => (files.read? other).isSome then some .belowFile
      else none

def write? (files : Files) (path : Path) (text : String) : Except WriteError Files :=
  match files.obstacle? path with
  | some error => .error error
  | none => .ok (files.write path text)

def changes (before after : Files) : List (Path × Option String) :=
  let written := after.entries.filter fun (path, text) => before.entries.lookup path ≠ some text
  let removed := before.entries.filter fun (path, _) => (after.entries.lookup path).isNone
  written.map (fun (path, text) => (path, some text)) ++ removed.map fun (path, _) => (path, none)

end Files

end MarkdownIntake.Storage
