import DeclLang.Comment
import DeclLang.Text.Blank
import DeclLang.Tree.Basic
import DeclLang.Word

/-!
# The syntax phase

`parse` works on the source text itself: comments become spaces, semicolons cut the text into
statements, and a statement is a type, blanks, an identifier, `=` and an expression. Comment marks
and semicolons inside a literal are not protected. The first statement that is no declaration ends
the phase with its error.

`render` writes declarations back, one statement to a line.
-/

namespace DeclLang

/-- Why a statement is no declaration. -/
inductive SyntaxError where
  | invalidStatement (statement : Text)
  | invalidType (typeName : Text)
  | digitStart (identifier : Text)
  | invalidIdentifier (identifier : Text)
deriving DecidableEq, Repr

namespace SyntaxError

/-- The wording of an error. -/
def message : SyntaxError → String
  | invalidStatement statement =>
    "invalid statement '" ++ String.ofList statement
      ++ "', expected \x60type identifier = value;\x60"
  | invalidType typeName => "'" ++ String.ofList typeName ++ "' is not a valid type"
  | digitStart identifier =>
    "identifier '" ++ String.ofList identifier ++ "' cannot start with a digit"
  | invalidIdentifier identifier =>
    "'" ++ String.ofList identifier ++ "' is not a valid identifier"

/-- The wording of an error with the name of the phase. -/
def describe (e : SyntaxError) : String := "Syntax error: " ++ e.message

end SyntaxError

namespace Statement

/-- The statements of a source text: what is left between semicolons without comments and outer
blanks, unless nothing is left. -/
def split (source : Text) : List Text :=
  (((Comment.strip source).splitOn ';').map Text.trim).filter (· ≠ [])

/-- The identifier of a statement and what follows it: the first character whatever it is, then
all characters up to a blank or `=`. -/
def cutIdentifier : Text → Text × Text
  | [] => ([], [])
  | c :: rest =>
    let inside := fun c => !Text.isBlank c && c != '='
    (c :: rest.takeWhile inside, rest.dropWhile inside)

/-- A trimmed statement cut into type, identifier and expression, before any of them is checked.

The type is the first run without blanks; after the identifier come `=` and an expression, with or
without blanks around the `=`. -/
def cut? (statement : Text) : Option Declaration :=
  let typeName := statement.takeWhile (!Text.isBlank ·)
  let afterType := statement.dropWhile (!Text.isBlank ·)
  if typeName = [] ∨ afterType = [] then none
  else
    let (identifier, afterIdentifier) := cutIdentifier (Text.trimLeft afterType)
    match Text.trimLeft afterIdentifier with
    | '=' :: value =>
      let expression := Text.trimLeft value
      if identifier = [] ∨ expression = [] then none
      else some ⟨typeName, identifier, expression⟩
    | _ => none

/-- The declaration that a trimmed statement makes. -/
def read (statement : Text) : Except SyntaxError Declaration :=
  match cut? statement with
  | none => .error (.invalidStatement statement)
  | some d =>
    if !Word.isTypeName d.typeName then .error (.invalidType d.typeName)
    else if d.identifier.head?.any Char.isDigit then .error (.digitStart d.identifier)
    else if !Word.isIdentifier d.identifier then .error (.invalidIdentifier d.identifier)
    else .ok d

end Statement

/-- The declarations of a source text in order, or the error of the first statement that makes
none. -/
def parseDeclarations (source : Text) : Except SyntaxError (List Declaration) :=
  (Statement.split source).mapM Statement.read

/-- The tree of a source text. -/
def parse (source : Text) : Except SyntaxError Tree :=
  (parseDeclarations source).map Tree.ofDeclarations

/-- A declaration as a statement. -/
def Declaration.render (d : Declaration) : Text :=
  d.typeName ++ ' ' :: d.identifier ++ [' ', '=', ' '] ++ d.expression ++ [';']

/-- Declarations as source text, one to a line. -/
def render (ds : List Declaration) : Text := ds.flatMap fun d => d.render ++ ['\n']

end DeclLang
