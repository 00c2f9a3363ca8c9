import DeclLang.Text.Basic
import DeclLang.Text.Extender
import DeclLang.Text.Unprintable

/-!
# Quotations

A text is quoted between double quotes, with a backslash before a quote or a backslash. The
commonest control characters have a letter of their own, and every other character that would not
show, or would show only as part of its neighbour, is written by its code point.
-/

namespace DeclLang.Text

/-- A character within a quotation. -/
def quoteChar (c : Char) : Text :=
  if c = '"' ∨ c = '\\' then ['\\', c]
  else if c = '\n' then ['\\', 'n']
  else if c = '\r' then ['\\', 'r']
  else if c = '\t' then ['\\', 't']
  else if c = '\x00' then ['\\', '0']
  else if isExtender c || isUnprintable c then
    ['\\', 'u', '\x7b'] ++ Nat.toDigits 16 c.toNat ++ ['\x7d']
  else [c]

/-- A text as a quotation. -/
def quote (s : Text) : Text := '"' :: s.flatMap quoteChar ++ ['"']

end DeclLang.Text
