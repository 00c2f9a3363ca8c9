import DeclLang.Text.Basic

/-!
# Tokens

A token is a stretch of source text with a kind and the byte offsets where it starts and stops.
-/

namespace DeclLang

/-- The categories of tokens. -/
inductive Token.Kind where
  | identifier
  | keyword
  | string
  | char
  | number
  | boolean
  | operator
  | punctuation
deriving DecidableEq, Repr

/-- The name of a category. -/
def Token.Kind.name : Token.Kind → String
  | .identifier => "identifier"
  | .keyword => "keyword"
  | .string => "string"
  | .char => "char"
  | .number => "number"
  | .boolean => "boolean"
  | .operator => "operator"
  | .punctuation => "punctuation"

/-- A lexeme with its kind and its half-open byte span in the source. -/
structure Token where
  kind : Token.Kind
  lexeme : Text
  start : Nat
  stop : Nat
deriving DecidableEq, Repr

namespace Token

/-- The same token in a source with a number of bytes put in front. -/
def shift (bytes : Nat) (t : Token) : Token :=
  { t with start := t.start + bytes, stop := t.stop + bytes }

/-- A token as kind, quoted lexeme and half-open span. -/
def describe (t : Token) : String :=
  t.kind.name ++ " '" ++ String.ofList t.lexeme ++ "' [" ++ toString t.start ++ ".."
    ++ toString t.stop ++ ")"

end Token

end DeclLang
