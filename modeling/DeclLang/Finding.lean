import DeclLang.Literal
import DeclLang.Tree.Basic

/-!
# The semantic phase

`check` walks the declarations of a tree in document order and says something about each: that its
type is unknown, that its name is taken, or that the variable is declared, and then also whether
the type of a literal fails to fit. Only a declaration with a known type and a free name takes its
name. A tree without declarations has one finding that says so.
-/

namespace DeclLang

/-- How serious a finding is. -/
inductive Level where
  | info
  | warn
  | error
deriving DecidableEq, Repr

/-- The name of a level. -/
def Level.name : Level → String
  | .info => "info"
  | .warn => "warn"
  | .error => "error"

/-- What the semantic phase says about a tree. -/
inductive Finding where
  | unknownType (typeName identifier : Text)
  | alreadyDeclared (identifier : Text)
  | declared (identifier : Text) (type : PrimitiveType)
  | mismatch (value : PrimitiveType) (expression identifier : Text) (type : PrimitiveType)
  | nothingToReport
deriving DecidableEq, Repr

namespace Finding

/-- The level of a finding. -/
def level : Finding → Level
  | unknownType .. | alreadyDeclared _ | mismatch .. => .error
  | declared .. | nothingToReport => .info

/-- Whether a finding is an error. -/
def isError (f : Finding) : Bool := f.level == .error

/-- The wording of a finding. -/
def message : Finding → String
  | unknownType typeName identifier =>
    "unknown type '" ++ String.ofList typeName ++ "' for variable '" ++ String.ofList identifier
      ++ "'"
  | alreadyDeclared identifier =>
    "variable '" ++ String.ofList identifier ++ "' is already declared"
  | declared identifier type =>
    "declared variable '" ++ String.ofList identifier ++ "' of type " ++ type.name
  | mismatch value expression identifier type =>
    "type mismatch: cannot assign " ++ value.name ++ " value " ++ String.ofList expression
      ++ " to variable '" ++ String.ofList identifier ++ "' of type " ++ type.name
  | nothingToReport => "no semantic errors found"

/-- The wording of a finding with its level. -/
def describe (f : Finding) : String := "[" ++ f.level.name ++ "] " ++ f.message

/-- The first error among findings. -/
def firstError? (findings : List Finding) : Option Finding := findings.find? isError

end Finding

namespace Declaration

/-- The misfit of a literal initial value with the declared type, if there is one. -/
def mismatch? (type : PrimitiveType) (d : Declaration) : Option Finding :=
  match Literal.infer d.expression with
  | none => none
  | some value =>
    if type.accepts value then none
    else some (.mismatch value (Text.trim d.expression) d.identifier type)

/-- What is said about a declaration when the given names are taken. -/
def findings (taken : List Text) (d : Declaration) : List Finding :=
  match PrimitiveType.ofName? d.typeName with
  | none => [.unknownType d.typeName d.identifier]
  | some type =>
    if d.identifier ∈ taken then [.alreadyDeclared d.identifier]
    else .declared d.identifier type :: (d.mismatch? type).toList

/-- The names that are taken after a declaration when the given names were taken before it. -/
def takeName (taken : List Text) (d : Declaration) : List Text :=
  if (PrimitiveType.ofName? d.typeName).isSome then d.identifier :: taken else taken

end Declaration

/-- What is said about declarations in order when the given names are taken before the first. -/
def checkFrom (taken : List Text) : List Declaration → List Finding
  | [] => []
  | d :: rest => d.findings taken ++ checkFrom (d.takeName taken) rest

/-- What is said about the declarations of a tree; never nothing. -/
def check (tree : Tree) : List Finding :=
  match checkFrom [] tree.declarations with
  | [] => [.nothingToReport]
  | findings => findings

end DeclLang
