/-!
# Texts and byte offsets

A text is the list of its characters. Offsets into a text count bytes of its UTF-8 form, so an
offset need not fall between two characters; cutting at an offset keeps whole characters only,
and a slice exists exactly when both of its ends are character boundaries.

Lines come in two readings. `splitLines` cuts at every newline and keeps everything else, and
`lines` treats a newline as the end of a line and takes a carriage return before it along.
-/

namespace DeclLang

/-- A text is the list of its characters. -/
abbrev Text := List Char

namespace Text

/-- A front of a text is a part of it that starts where it starts and is not empty. -/
def IsFront (w s : Text) : Prop := w <+: s ∧ w ≠ []

/-- The number of bytes of a text in UTF-8. -/
def byteSize : Text → Nat
  | [] => 0
  | c :: rest => c.utf8Size + byteSize rest

@[simp] theorem byteSize_nil : byteSize [] = 0 := rfl

@[simp] theorem byteSize_cons (c : Char) (rest : Text) :
    byteSize (c :: rest) = c.utf8Size + byteSize rest := rfl

/-- Sizes add up over concatenation. -/
@[simp] theorem byteSize_append (a b : Text) : byteSize (a ++ b) = byteSize a + byteSize b := by
  induction a with
  | nil => simp
  | cons c rest ih => simp [ih, Nat.add_assoc]

/-- Only the empty text has no bytes. -/
theorem byteSize_pos {s : Text} (h : s ≠ []) : 0 < byteSize s := by
  cases s with
  | nil => exact absurd rfl h
  | cons c rest =>
    have := c.utf8Size_pos
    simp only [byteSize_cons]
    omega

/-- The characters of a text that end at or before a byte offset. -/
def takeBytes : Text → Nat → Text
  | [], _ => []
  | c :: rest, offset =>
    if c.utf8Size ≤ offset then c :: takeBytes rest (offset - c.utf8Size) else []

/-- The characters of a text that `takeBytes` leaves. -/
def dropBytes : Text → Nat → Text
  | [], _ => []
  | c :: rest, offset =>
    if c.utf8Size ≤ offset then dropBytes rest (offset - c.utf8Size) else c :: rest

/-- Cutting at an offset loses nothing. -/
theorem takeBytes_append_dropBytes (s : Text) (offset : Nat) :
    takeBytes s offset ++ dropBytes s offset = s := by
  induction s generalizing offset with
  | nil => rfl
  | cons c rest ih => by_cases h : c.utf8Size ≤ offset <;> simp [takeBytes, dropBytes, h, ih]

/-- Cutting at the end of a first part gives that part. -/
theorem takeBytes_append (a b : Text) : takeBytes (a ++ b) (byteSize a) = a := by
  induction a with
  | nil =>
    cases b with
    | nil => rfl
    | cons c rest =>
      have := c.utf8Size_pos
      simp only [List.nil_append, byteSize_nil, takeBytes]
      exact if_neg (by omega)
  | cons c rest ih => simp [takeBytes, ih]

/-- Whether a byte offset falls between two characters or at an end of the text. -/
def isBoundary (s : Text) (offset : Nat) : Bool := byteSize (takeBytes s offset) == offset

/-- The characters between two byte offsets; none when they are out of order, past the end or
inside a character. -/
def slice? (s : Text) (start stop : Nat) : Option Text :=
  if start ≤ stop ∧ isBoundary s start ∧ isBoundary s stop then
    some (takeBytes (dropBytes s start) (stop - start))
  else
    none

/-- Whether a text comes no later than another in the order of code points, which is also that of
their bytes in UTF-8. -/
def le : Text → Text → Bool
  | [], _ => true
  | _ :: _, [] => false
  | a :: as, b :: bs => a.toNat < b.toNat || (a == b && le as bs)

/-- The pieces of a text between newlines; there is always at least one. -/
def splitLines (s : Text) : List Text := s.splitOn '\n'

/-- A text without the carriage return at its end, if it has one. -/
def dropReturn (line : Text) : Text :=
  if line.getLast? = some '\r' then line.dropLast else line

/-- The lines of a text when a newline, or a carriage return and a newline, ends a line.

Text after the last newline is a line of its own unless it is empty; it keeps a final carriage
return, since no newline follows. -/
def lines (s : Text) : List Text :=
  let pieces := splitLines s
  pieces.dropLast.map dropReturn ++ pieces.getLast?.toList.filter (· ≠ [])

/-- A text followed by spaces up to a number of characters. -/
def padRight (width : Nat) (s : Text) : Text := s ++ List.replicate (width - s.length) ' '

/-- A text after spaces up to a number of characters. -/
def padLeft (width : Nat) (s : Text) : Text := List.replicate (width - s.length) ' ' ++ s

end Text

end DeclLang
