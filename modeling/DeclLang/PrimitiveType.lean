import DeclLang.Text.Basic

/-!
# Primitive types

The nine types a variable may be declared with. The numeric ones form a ladder from `byte` to
`double`, and a variable takes a value of its own type or of a lower rung. A character also widens
to `int` and every rung above it, while `boolean` and `String` take only themselves.
-/

namespace DeclLang

/-- The types of the declaration language. -/
inductive PrimitiveType where
  | byte
  | short
  | int
  | long
  | float
  | double
  | char
  | boolean
  | string
deriving DecidableEq, Repr

namespace PrimitiveType

/-- Every primitive type, in the order of the language definition. -/
def all : List PrimitiveType :=
  [.byte, .short, .int, .long, .float, .double, .char, .boolean, .string]

/-- The spelling of a type in source text. -/
def name : PrimitiveType → String
  | .byte => "byte"
  | .short => "short"
  | .int => "int"
  | .long => "long"
  | .float => "float"
  | .double => "double"
  | .char => "char"
  | .boolean => "boolean"
  | .string => "String"

/-- The type with a given spelling; spelling is case sensitive. -/
def ofName? (word : Text) : Option PrimitiveType := all.find? (·.name.toList == word)

/-- No type is missing from the list of all. -/
theorem mem_all (type : PrimitiveType) : type ∈ all := by cases type <;> decide

/-- A type is found by its own spelling. -/
@[simp] theorem ofName?_name (type : PrimitiveType) : ofName? type.name.toList = some type := by
  cases type <;> decide

/-- A word names a type only if it is that type's spelling. -/
theorem ofName?_eq_some {word : Text} {type : PrimitiveType} :
    ofName? word = some type ↔ word = type.name.toList := by
  constructor
  · intro h
    have := List.find?_some h
    exact (eq_of_beq this).symm
  · rintro rfl
    exact ofName?_name type

/-- The rung of a numeric type on the widening ladder. -/
def rank? : PrimitiveType → Option Nat
  | .byte => some 0
  | .short => some 1
  | .int => some 2
  | .long => some 3
  | .float => some 4
  | .double => some 5
  | .char | .boolean | .string => none

/-- Whether a variable of the declared type may start with a value of the other type. -/
def accepts (declared value : PrimitiveType) : Bool :=
  declared == value ||
    match declared.rank?, value.rank? with
    | some target, some origin => origin ≤ target
    | some target, none => value == .char && 2 ≤ target
    | none, _ => false

end PrimitiveType

end DeclLang
