import DeclLang.Tree.Basic

/-!
# Outlines

The outline of a tree is what is shown of it: nodes with a tag, sometimes a label, and children. A
declaration appears with three labelled leaves for its type, its identifier and its expression.

An outline is written in two ways, both with one line per node in pre-order: `text` indents every
node by its depth, and `rows` draws branches that show which node is the last child of its parent.
-/

namespace DeclLang

/-- The kinds of nodes in an outline. -/
inductive Outline.Tag where
  | program
  | variableDeclaration
  | type
  | identifier
  | expression
  | empty
deriving DecidableEq, Repr

/-- The word for a kind of node. -/
def Outline.Tag.name : Outline.Tag → String
  | .program => "Program"
  | .variableDeclaration => "VariableDeclaration"
  | .type => "Type"
  | .identifier => "Identifier"
  | .expression => "Expression"
  | .empty => "Empty"

/-- A node with a tag, perhaps a label, and children. -/
inductive Outline where
  | node (tag : Outline.Tag) (label : Option Text) (children : List Outline)
deriving Repr

namespace Outline

/-- The tag of a node. -/
def tag : Outline → Tag
  | node tag _ _ => tag

/-- The label of a node. -/
def label : Outline → Option Text
  | node _ label _ => label

/-- The children of a node. -/
def children : Outline → List Outline
  | node _ _ children => children

/-- A labelled node without children. -/
def leaf (tag : Tag) (label : Text) : Outline := node tag (some label) []

mutual

/-- The nodes of an outline in pre-order, each with its depth. -/
def flattenFrom (depth : Nat) : Outline → List (Nat × Outline)
  | node tag label children =>
    (depth, node tag label children) :: flattenAllFrom (depth + 1) children

/-- The nodes of a list of outlines in pre-order, each with its depth. -/
def flattenAllFrom (depth : Nat) : List Outline → List (Nat × Outline)
  | [] => []
  | child :: rest => flattenFrom depth child ++ flattenAllFrom depth rest

end

/-- The nodes of a list of outlines are those of its members in turn. -/
theorem flattenAllFrom_eq_flatMap (depth : Nat) (outlines : List Outline) :
    flattenAllFrom depth outlines = outlines.flatMap (flattenFrom depth) := by
  induction outlines with
  | nil => rfl
  | cons child rest ih => simp [flattenAllFrom, ih]

/-- The nodes of an outline in pre-order, each with its depth below the root. -/
def flatten (o : Outline) : List (Nat × Outline) := flattenFrom 0 o

/-- The caption of a node: its tag, and its label after a colon. -/
def caption (o : Outline) : Text :=
  o.tag.name.toList ++ (o.label.map (':' :: ' ' :: ·)).getD []

/-- An outline as text: a line for every node, indented by two spaces for each level. -/
def text (o : Outline) : Text :=
  o.flatten.flatMap fun (depth, o) => List.replicate (2 * depth) ' ' ++ o.caption ++ ['\n']

/-- Where a node stands among the children of its parent. -/
inductive Branch where
  | root
  | inner
  | last
deriving DecidableEq, Repr

/-- What is drawn before the caption of a node. -/
def Branch.mark : Branch → Text
  | .root => []
  | .inner => ['├', ' ']
  | .last => ['└', ' ']

/-- What is drawn below that mark, in front of the descendants of the node. -/
def Branch.below : Branch → Text
  | .root => []
  | .inner => ['│', ' ']
  | .last => [' ', ' ']

/-- One drawn line: the branches, then the tag and the label of a node. -/
structure Row where
  branches : Text
  tag : Tag
  label : Option Text
deriving DecidableEq, Repr

mutual

/-- The drawn lines of an outline below the given branches. -/
def rowsFrom (branches : Text) (branch : Branch) : Outline → List Row
  | node tag label children =>
    ⟨branches ++ branch.mark, tag, label⟩ :: rowsOfAllFrom (branches ++ branch.below) children

/-- The drawn lines of the children of a node below the given branches. -/
def rowsOfAllFrom (branches : Text) : List Outline → List Row
  | [] => []
  | child :: rest =>
    rowsFrom branches (if rest.isEmpty then .last else .inner) child ++ rowsOfAllFrom branches rest

end

/-- The drawn lines of an outline. -/
def rows (o : Outline) : List Row := rowsFrom [] .root o

end Outline

namespace Tree

mutual

/-- The outline of a tree. -/
def outline : Tree → Outline
  | program children => .node .program none (outlines children)
  | declaration d =>
    .node .variableDeclaration none
      [.leaf .type d.typeName, .leaf .identifier d.identifier, .leaf .expression d.expression]
  | empty => .node .empty none []

/-- The outlines of a list of trees. -/
def outlines : List Tree → List Outline
  | [] => []
  | child :: rest => outline child :: outlines rest

end

/-- The outlines of a list of trees are those of its members in turn. -/
theorem outlines_eq_map (trees : List Tree) : outlines trees = trees.map outline := by
  induction trees with
  | nil => rfl
  | cons child rest ih => simp [outlines, ih]

/-- The tag of the root of a tree. -/
def tag (t : Tree) : Outline.Tag := t.outline.tag

end Tree

end DeclLang
