import MarkdownIntake.Markdown.Character
import MarkdownIntake.Text.Case

/-!
This module contains link references: the key that a label is looked up by, and the definitions that
a document collects. The first definition of a key counts.
-/

namespace MarkdownIntake.Markdown

open MarkdownIntake.Text

abbrev References := List (String × String)

def collapseMargins (cs : List Char) : List Char :=
  cs.foldr
    (fun c rest =>
      if isMargin c then (if rest.head? == some ' ' then rest else ' ' :: rest) else c :: rest)
    []

def referenceKey (label : List Char) : String :=
  let label := collapseMargins (trimMargins label)
  String.ofList (upper (lower (label.map fun c => if c = 'ẞ' then 'ß' else c)))

def References.define (references : References) (key address : String) : References :=
  if (references.lookup key).isSome then references else references ++ [(key, address)]

end MarkdownIntake.Markdown
