/-!
# Ranges of characters

A property of characters is given by the closed ranges of code points that have it, in ascending
order.
-/

namespace DeclLang

/-- Whether a character lies in one of the closed ranges of a table. -/
def inRanges (table : List (Nat × Nat)) (c : Char) : Bool :=
  table.any fun range => range.1 ≤ c.toNat && c.toNat ≤ range.2

end DeclLang
