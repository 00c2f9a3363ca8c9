import DeclLang.Text.Basic

/-!
# Locations

A location names a place in a text by line and column, both counted from one. The line is one more
than the number of newlines before the place, and the column one more than the number of characters
since the last of them.
-/

namespace DeclLang

/-- A line and a column, both counted from one. -/
structure Location where
  line : Nat
  column : Nat
deriving DecidableEq, Repr

namespace Location

/-- The location that follows a text. -/
def after (before : Text) : Location where
  line := before.count '\n' + 1
  column := (before.reverse.takeWhile (· ≠ '\n')).length + 1

/-- The location of the last character boundary at or before a byte offset. -/
def atOffset (source : Text) (offset : Nat) : Location := after (source.takeBytes offset)

/-- The location of a byte offset, where one past the end counts as the end; none inside a
character. -/
def ofOffset? (source : Text) (offset : Nat) : Option Location :=
  if source.isBoundary (min offset source.byteSize) then some (atOffset source offset) else none

/-- Where a first part of a text ends, its rest begins. -/
theorem atOffset_append (a b : Text) : atOffset (a ++ b) a.byteSize = after a := by
  rw [atOffset, Text.takeBytes_append]

end Location

end DeclLang
