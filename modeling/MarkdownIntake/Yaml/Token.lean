/-!
This module contains the tokens that a YAML text consists of.
-/

namespace MarkdownIntake.Yaml

inductive Token where
  | version (major : Nat)
  | handle (handle expansion : String)
  | otherDirective
  | documentStart
  | documentEnd
  | listStart
  | mapStart
  | blockEnd
  | openList
  | closeList
  | openMap
  | closeMap
  | comma
  | item
  | key
  | value
  | alias (name : String)
  | anchor (name : String)
  /-- The tag of the node that follows; without a handle it is complete. -/
  | tag (handle? : Option String) (suffix : String)
  | scalar (text : String) (isPlain : Bool)
  /-- A text with a code that is too large; neither it nor what is behind it can be read. -/
  | tooLarge
deriving Repr, DecidableEq, Inhabited

end MarkdownIntake.Yaml
