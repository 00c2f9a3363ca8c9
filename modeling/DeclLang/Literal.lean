import DeclLang.Text.Blank
import DeclLang.Numeral
import DeclLang.Quoted
import DeclLang.Word

/-!
# Literals and their types

Seven shapes of a whole text make it a literal, and each shape has a type. Only a bare integer has
its type by value: the narrowest of `byte`, `short` and `int` that holds it, and otherwise `long`.
A text of no such shape has no type that could be checked.
-/

namespace DeclLang.Literal

/-- A text between double quotes. -/
def isString (e : Text) : Bool := Quoted.front? '"' true e == some e

/-- One raw character, or a backslash and one character other than a newline, between single
quotes. -/
def isChar : Text → Bool
  | [opening, c, closing] => opening = '\'' && closing = '\'' && c ≠ '\'' && c ≠ '\\'
  | [opening, mark, c, closing] => opening = '\'' && closing = '\'' && mark = '\\' && c ≠ '\n'
  | _ => false

/-- A number with the suffix letter of `float`. -/
def isFloat (e : Text) : Bool := Number.suffixed? ['f', 'F'] e == some e

/-- A number with a point and no suffix, or any number with the suffix letter of `double`. -/
def isDouble (e : Text) : Bool :=
  Number.pointed? e == some e || Number.suffixed? ['d', 'D'] e == some e

/-- An integer with the suffix letter of `long`. -/
def isLong (e : Text) : Bool := Number.suffixedInteger? ['l', 'L'] e == some e

/-- An integer without a suffix. -/
def isInteger (e : Text) : Bool := Number.integer? e == some e

/-- The narrowest type from `byte` to `long` whose signed range holds a value. -/
def narrowest (value : Int) : PrimitiveType :=
  if -128 ≤ value ∧ value ≤ 127 then .byte
  else if -32768 ≤ value ∧ value ≤ 32767 then .short
  else if -2147483648 ≤ value ∧ value ≤ 2147483647 then .int
  else .long

/-- The type of a literal, after trimming; none for any other expression.

An integer that has no value here, because it is too large or in digits of another script, counts
as `long`. -/
def infer (expression : Text) : Option PrimitiveType :=
  let e := Text.trim expression
  if Word.isBoolean e then some .boolean
  else if isString e then some .string
  else if isChar e then some .char
  else if isFloat e then some .float
  else if isDouble e then some .double
  else if isLong e then some .long
  else if isInteger e then some (((Number.value? e).map narrowest).getD .long)
  else none

end DeclLang.Literal
