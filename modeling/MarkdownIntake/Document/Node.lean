/-!
This module contains the tree of a parsed document and its three views: all nodes, the links among
them, and the surface that counts of block elements are taken from.
-/

namespace MarkdownIntake.Document

/--
A node of a document. Nodes carry meaning only and no positions in the text; links and images stand
below the block that holds them.
-/
structure Node where
  kind : String
  depth : Option Int := none
  href : Option String := none
  /-- The source of a heading or a link label, the alternative text of an image, or plain text. -/
  text : Option String := none
  lang : Option String := none
  children : List Node := []
deriving Repr, BEq, Inhabited

mutual

def Node.walk : Node → List Node
  | ⟨kind, depth, href, text, lang, children⟩ =>
    ⟨kind, depth, href, text, lang, children⟩ :: walk children

def walk : List Node → List Node
  | [] => []
  | node :: rest => node.walk ++ walk rest

end

def Node.is (kind : String) (node : Node) : Bool :=
  node.kind == kind

def links (forest : List Node) : List Node :=
  (walk forest).filter (·.is "link")

/-- The top nodes of a forest, each paragraph among them followed by the nodes right below it. -/
def surface (forest : List Node) : List Node :=
  forest.flatMap fun node => if node.is "paragraph" then node :: node.children else [node]

end MarkdownIntake.Document
