import DeclLang.Text.Basic

/-!
# Declarations and their trees

A declaration names a type, an identifier and an initial expression, all as written. A tree holds
declarations in document order under programs, which may nest; a program without any declaration
has the single child `empty`.
-/

namespace DeclLang

/-- One statement that declares a variable; the expression is kept as written. -/
structure Declaration where
  typeName : Text
  identifier : Text
  expression : Text
deriving DecidableEq, Repr

/-- A source text as a tree. -/
inductive Tree where
  | program (children : List Tree)
  | declaration (d : Declaration)
  | empty
deriving Repr

namespace Tree

/-- The program with the given children, or with the single child `empty` if there are none. -/
def ofChildren : List Tree → Tree
  | [] => program [empty]
  | children => program children

/-- The program of a list of declarations. -/
def ofDeclarations (ds : List Declaration) : Tree := ofChildren (ds.map declaration)

mutual

/-- The declarations of a tree in document order. -/
def declarations : Tree → List Declaration
  | program children => declarationsOfAll children
  | declaration d => [d]
  | empty => []

/-- The declarations of a list of trees in document order. -/
def declarationsOfAll : List Tree → List Declaration
  | [] => []
  | child :: rest => declarations child ++ declarationsOfAll rest

end

/-- The declarations of a list of trees are those of its members in turn. -/
theorem declarationsOfAll_eq_flatMap (trees : List Tree) :
    declarationsOfAll trees = trees.flatMap declarations := by
  induction trees with
  | nil => rfl
  | cons child rest ih => simp [declarationsOfAll, ih]

/-- The tree of a list of declarations holds just those, in order. -/
@[simp] theorem declarations_ofDeclarations (ds : List Declaration) :
    (ofDeclarations ds).declarations = ds := by
  cases ds with
  | nil => rfl
  | cons d rest =>
    have key (rest : List Declaration) : declarationsOfAll (rest.map declaration) = rest := by
      induction rest with
      | nil => rfl
      | cons d rest ih => simp [declarationsOfAll, declarations, ih]
    exact key (d :: rest)

end Tree

end DeclLang
