import DeclLang.Text.Basic
import DeclLang.Text.Range

/-!
# Blank characters

A character is blank when it has the Unicode property White_Space. Trimming, cutting into words
and the white space between tokens all use this one class; a zero width space or a byte order
mark is not in it.
-/

namespace DeclLang.Text

/-- The ranges of the Unicode property White_Space. -/
def blankRanges : List (Nat × Nat) :=
  [(0x09, 0x0D), (0x20, 0x20), (0x85, 0x85), (0xA0, 0xA0), (0x1680, 0x1680), (0x2000, 0x200A),
    (0x2028, 0x2029), (0x202F, 0x202F), (0x205F, 0x205F), (0x3000, 0x3000)]

/-- Whether a character is white space. -/
def isBlank (c : Char) : Bool := inRanges blankRanges c

/-- A text without the blanks at its front. -/
def trimLeft (s : Text) : Text := s.dropWhile isBlank

/-- A text without the blanks at its end. -/
def trimRight (s : Text) : Text := (s.reverse.dropWhile isBlank).reverse

/-- A text without the blanks at both ends. -/
def trim (s : Text) : Text := trimRight (trimLeft s)

/-- The maximal runs of characters that are not blank. -/
def words (s : Text) : List Text := (s.splitOnP isBlank).filter (· ≠ [])

end DeclLang.Text
