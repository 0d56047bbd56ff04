import MarkdownIntake.Yaml.Node

/-!
This module contains the values that nodes stand for. A map may take over the entries of other maps;
its own entries come after them, and of several entries with one key the last one counts. What is in a
list or in a map is read after all that stands beside it, and the first fault in this order counts.
-/

namespace MarkdownIntake.Yaml.Node

def tag : Node → Tag
  | .scalar tag _ | .list tag _ | .map tag _ => tag

def withTag (tag : Tag) : Node → Node
  | .scalar _ text => .scalar tag text
  | .list _ items => .list tag items
  | .map _ entries => .map tag entries

def isMap : Node → Bool
  | .map _ _ => true
  | _ => false

mutual

/-- The text of a node: that of a single value, or that for the value of a whole map. -/
def text? : Node → Option String
  | .scalar _ text => some text
  | .list _ _ => none
  | .map _ entries => entryText? entries

def entryText? : List (Node × Node) → Option String
  | [] => none
  | (key, value) :: rest => if key.tag = .scalar .value then value.text? else entryText? rest

end

mutual

def split? : List (Node × Node) → Option (List (Node × Node) × List (Node × Node))
  | [] => some ([], [])
  | (key, value) :: rest => do
    let (merged, own) ← split? rest
    if key.tag = .scalar .merge then
      return ((← value.taken?) ++ merged, own)
    else
      let key := if key.tag = .scalar .value then key.withTag (.scalar .text) else key
      return (merged, (key, value) :: own)

def taken? : Node → Option (List (Node × Node))
  | .scalar _ _ => none
  | .list _ items => itemsTaken? items
  | .map _ entries => do
    let (merged, own) ← split? entries
    return merged ++ own

/-- The entries that are taken over from the maps in a list; those of the first one count most. -/
def itemsTaken? : List Node → Option (List (Node × Node))
  | [] => some []
  | .map _ entries :: rest => do
    let (merged, own) ← split? entries
    return (← itemsTaken? rest) ++ (merged ++ own)
  | _ :: _ => none

end

/-- A part of a list or of a map: its value, or the node of a list or a map that is read later. -/
inductive Part where
  | now (value : Value)
  | later (node : Node)

def readText (node : Node) (read : String → Except Error Value) : Except Error Value :=
  match node.text? with
  | some text => read text
  | none => .error .malformed

def part (node : Node) : Except Error Part :=
  match node.tag with
  | .list | .pairs | .map | .set => .ok (.later node)
  | .bytes => (node.readText Scalar.readBytes).map .now
  | .scalar .moment =>
    if node.isMap then (node.readText fun _ => .error .mapAsMoment).map .now
    else (node.readText (Scalar.read .moment)).map .now
  | .scalar kind => (node.readText (Scalar.read kind)).map .now
  | .unknown => .error .malformed

/-- What is known of a list or of a map before the lists and maps in it are read. -/
inductive Frame where
  | list (items : List Part)
  | pairs (items : List (Part × Part))
  | map (entries : List (Value × Part))
  | set (entries : List (Value × Part))

def pair : Node → Except Error (Part × Part)
  | .map _ [(first, second)] => do return (← first.part, ← second.part)
  | _ => .error .malformed

def entry (entry : Node × Node) : Except Error (Value × Part) := do
  match ← entry.1.part with
  | .later _ => .error .malformed
  | .now key => return (key, ← entry.2.part)

def entryParts (entries : List (Node × Node)) : Except Error (List (Value × Part)) :=
  match split? entries with
  | none => .error .malformed
  | some (merged, own) => (merged ++ own).mapM entry

def frame : Node → Except Error Frame
  | .list .list items => do return .list (← items.mapM part)
  | .list .pairs items => do return .pairs (← items.mapM pair)
  | .map .map entries => do return .map (← entryParts entries)
  | .map .set entries => do return .set (← entryParts entries)
  | _ => .error .malformed

def Part.later? : Part → Option Node
  | .now _ => none
  | .later node => some node

def Frame.later : Frame → List Node
  | .list items => items.filterMap Part.later?
  | .pairs items => (items.flatMap fun (first, second) => [first, second]).filterMap Part.later?
  | .map entries | .set entries => entries.filterMap (·.2.later?)

/-- The value of a part; those of the parts that are read later are given in their order. -/
def Part.value : Part → StateM (List Value) Value
  | .now value => return value
  | .later _ => do
    let values ← get
    set values.tail
    return values.headD .null

def Frame.value : Frame → StateM (List Value) Value
  | .list items => do return .list (← items.mapM Part.value)
  | .pairs items => do
    return .list (← items.mapM fun (first, second) => do
      return .list [← first.value, ← second.value])
  | .map entries => do
    return .map (← entries.mapM fun (key, part) => do return (key, ← part.value))
  | .set entries => do
    let _ ← entries.mapM (·.2.value)
    return .set (entries.map (·.1))

mutual

def depth : Node → Nat
  | .scalar _ _ => 1
  | .list _ items => itemsDepth items + 1
  | .map _ entries => entriesDepth entries + 1

def itemsDepth : List Node → Nat
  | [] => 0
  | item :: rest => max item.depth (itemsDepth rest)

def entriesDepth : List (Node × Node) → Nat
  | [] => 0
  | (key, value) :: rest => max (max key.depth value.depth) (entriesDepth rest)

end

/-- The values of lists and maps that stand side by side. `fuel` bounds their depth. -/
def values : (fuel : Nat) → List Node → Except Error (List Value)
  | 0, _ => .ok []
  | fuel + 1, nodes => do
    let frames ← nodes.mapM frame
    let later ← values fuel (frames.flatMap Frame.later)
    return ((frames.mapM Frame.value).run later).1

def value (node : Node) : Except Error Value := do
  match ← node.part with
  | .now value => return value
  | .later node => return (← values node.depth [node]).headD .null

end MarkdownIntake.Yaml.Node
