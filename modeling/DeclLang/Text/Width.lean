import DeclLang.Text.Basic
import DeclLang.Text.CellWidth

/-!
# Display width

The width of a text is the number of cells that it takes on a screen of equal cells. Mostly that is
the sum over its characters, but some of them take another room before certain others: a carriage
return before a newline, a picture before the selector of its shape or joined to another picture,
and letters that merge into one shape. So the width is summed up from the last character to the
first, and what follows is kept along. A newline by itself has no width; other controls have one
cell.
-/

namespace DeclLang.Text

/-- The characters on which the room of a character before them depends. -/
inductive FollowerKind where
  /-- Anything that leaves the character before it alone. -/
  | other
  | newline
  /-- A picture of two cells. -/
  | picture
  /-- A modifier of skin tone. -/
  | modifier
  /-- The Arabic letter alef in any of its forms. -/
  | alef
  /-- The Hebrew letter lamed. -/
  | lamed
  /-- A Khmer letter that has a subscript form. -/
  | khmerLetter
  /-- The Buginese letter ya. -/
  | ya
  /-- The Buginese vowel sign i with the letter ya joined to it. -/
  | vowelYa
  /-- A Tifinagh consonant. -/
  | tifinagh
  /-- The joiner of Tifinagh consonants with a consonant after it. -/
  | joinedTifinagh
  /-- A Lisu tone letter that may be the second of two. -/
  | lisuTone
  /-- The Old Turkic letter i. -/
  | turkicI
  /-- The Kirat Rai vowel sign e. -/
  | kiratE
  /-- The Kirat Rai vowel sign ai. -/
  | kiratAi
deriving DecidableEq, Repr

/-- The shape that a selector asks for. -/
inductive Shape where
  | picture
  | plain
deriving DecidableEq, Repr

/-- What follows a character, and what stands between the two. -/
structure Follower where
  kind : FollowerKind := .other
  /-- Whether a zero width joiner stands in between. -/
  joined : Bool := false
  /-- The selector right after the character, if there is one. -/
  selector : Option Shape := none
deriving DecidableEq, Repr

/-- Whether a character is a Tifinagh consonant. -/
def isTifinaghConsonant (c : Char) : Bool := inRanges [(0x2D31, 0x2D65), (0x2D6F, 0x2D6F)] c

namespace FollowerKind

/-- The forms of the Arabic letter alef. -/
def alefRanges : List (Nat × Nat) :=
  [(0x622, 0x623), (0x625, 0x625), (0x627, 0x627), (0x671, 0x673), (0x675, 0x675), (0x773, 0x774),
    (0x870, 0x882)]

/-- The Khmer letters that have a subscript form. -/
def khmerLetterRanges : List (Nat × Nat) :=
  [(0x1780, 0x1782), (0x1784, 0x1787), (0x1789, 0x178C), (0x178E, 0x1793), (0x1795, 0x1798),
    (0x179B, 0x179D), (0x17A0, 0x17A0), (0x17A2, 0x17A2), (0x17A7, 0x17A7), (0x17AB, 0x17AC),
    (0x17AF, 0x17AF)]

/-- What a character is to the one before it. -/
def ofChar (c : Char) : FollowerKind :=
  if Emoji.isModifier c then .modifier
  else if Emoji.isPicture c then .picture
  else if inRanges alefRanges c then .alef
  else if c = 'ל' then .lamed
  else if inRanges khmerLetterRanges c then .khmerLetter
  else if c.toNat = 0x1A10 then .ya
  else if isTifinaghConsonant c then .tifinagh
  else if inRanges [(0xA4FC, 0xA4FD)] c then .lisuTone
  else if c.toNat = 0x10C03 then .turkicI
  else if c.toNat = 0x16D67 then .kiratE
  else if c.toNat = 0x16D68 then .kiratAi
  else .other

/-- Whether letters merge with this one, also across selectors and other characters that do not
show. -/
def merges : FollowerKind → Bool
  | .alef | .lamed | .khmerLetter | .ya | .vowelYa | .tifinagh | .joinedTifinagh | .lisuTone
  | .turkicI => true
  | .other | .newline | .picture | .modifier | .kiratE | .kiratAi => false

end FollowerKind

namespace Follower

/-- The forms of the Arabic letter lam. -/
def lamRanges : List (Nat × Nat) :=
  [(0x644, 0x644), (0x6B5, 0x6B8), (0x76A, 0x76A), (0x8A6, 0x8A6), (0x8C7, 0x8C7)]

/-- The characters without a cell across which Arabic letters do not merge. -/
def arabicBarrierRanges : List (Nat × Nat) :=
  [(0x605, 0x605), (0x890, 0x891), (0x8E2, 0x8E2), (0x9BE, 0x9BE), (0x9D7, 0x9D7), (0xB3E, 0xB3E),
    (0xB57, 0xB57), (0xBBE, 0xBBE), (0xBD7, 0xBD7), (0xCC0, 0xCC0), (0xCC2, 0xCC2), (0xCC7, 0xCC8),
    (0xCCA, 0xCCB), (0xCD5, 0xCD6), (0xD3E, 0xD3E), (0xD4E, 0xD4E), (0xD57, 0xD57), (0xDCF, 0xDCF),
    (0xDDF, 0xDDF), (0x1160, 0x11FF), (0x1715, 0x1715), (0x1734, 0x1734), (0x180E, 0x180E),
    (0x1B35, 0x1B35), (0x1B3B, 0x1B3B), (0x1B3D, 0x1B3D), (0x1B43, 0x1B44), (0x1BAA, 0x1BAA),
    (0x1BF2, 0x1BF3), (0x200C, 0x200D), (0x2065, 0x2069), (0x302E, 0x302F), (0x3164, 0x3164),
    (0xA8FA, 0xA8FA), (0xA953, 0xA953), (0xA9C0, 0xA9C0), (0xD7B0, 0xD7C6), (0xD7CB, 0xD7FB),
    (0xFF9E, 0xFFA0), (0xFFF0, 0xFFF8), (0x111C0, 0x111C0), (0x111C2, 0x111C3), (0x11235, 0x11235),
    (0x1133E, 0x1133E), (0x1134D, 0x1134D), (0x11357, 0x11357), (0x113B8, 0x113B8),
    (0x113C2, 0x113C2), (0x113C5, 0x113C5), (0x113C7, 0x113C9), (0x113CF, 0x113CF),
    (0x113D1, 0x113D1), (0x114B0, 0x114B0), (0x114BD, 0x114BD), (0x115AF, 0x115AF),
    (0x116B6, 0x116B6), (0x11930, 0x11930), (0x1193D, 0x1193D), (0x1193F, 0x1193F),
    (0x11941, 0x11941), (0x11A3A, 0x11A3A), (0x11A84, 0x11A89), (0x11D46, 0x11D46),
    (0x11F02, 0x11F02), (0x11F41, 0x11F41), (0x16FF0, 0x16FF1), (0x1D165, 0x1D166),
    (0x1D16D, 0x1D172), (0xE0000, 0xE0000), (0xE0002, 0xE001F), (0xE0080, 0xE00FF),
    (0xE01F0, 0xE0FFF)]

/-- The characters that do not show and across which all letters merge. -/
def transparentRanges : List (Nat × Nat) :=
  [(0x34F, 0x34F), (0x17B4, 0x17B5), (0x180B, 0x180D), (0x180F, 0x180F), (0xFE00, 0xFE0F),
    (0xE0100, 0xE01EF)]

/-- The selector that a character is, if it is one. -/
def selector? (c : Char) : Option Shape :=
  if c.toNat = 0xFE0F then some .picture else if c.toNat = 0xFE0E then some .plain else none

/-- What follows a selector that asks for a shape the character before it does not have. -/
def withoutSelector (next : Follower) : Follower :=
  if next.kind.merges || next.selector.isNone then { next with selector := none } else {}

/-- What follows a character before a selector. -/
def select (next : Follower) (shape : Shape) : Follower :=
  if next.kind.merges || (shape = .picture && next.kind = .picture && next.joined) then
    { next with selector := some shape }
  else { selector := some shape }

/-- The cells that a letter adds where it merges with what follows it, and what the two of them are
to the letter before. -/
def merged? (c : Char) (next : Follower) : Option (Int × Follower) :=
  match next.kind, next.joined with
  | .alef, _ =>
    if inRanges lamRanges c then some (0, {})
    else if isWidthless c && !inRanges arabicBarrierRanges c then some (0, next)
    else none
  | .lamed, true => if c = 'א' then some (0, {}) else none
  | .khmerLetter, _ => if c.toNat = 0x17D2 then some (-1, {}) else none
  | .ya, true => if c.toNat = 0x1A17 then some (0, { kind := .vowelYa }) else none
  | .vowelYa, _ => if c.toNat = 0x1A15 then some (0, {}) else none
  | .tifinagh, joined =>
    if c.toNat = 0x2D7F then some (1, { kind := .joinedTifinagh })
    else if joined && isTifinaghConsonant c then some (0, {})
    else none
  | .joinedTifinagh, _ => if isTifinaghConsonant c then some (-1, {}) else none
  | .lisuTone, _ => if inRanges [(0xA4F8, 0xA4FB)] c then some (0, {}) else none
  | .turkicI, true => if c.toNat = 0x10C32 then some (0, {}) else none
  | .modifier, _ => if Emoji.isModifiable c then some (0, { kind := .picture }) else none
  | .picture, true =>
    if Emoji.isModifier c then some (0, { kind := .modifier })
    else if Emoji.isPicture c then some (0, { kind := .picture })
    else none
  | .kiratE, _ =>
    if c.toNat = 0x16D63 ∨ c.toNat = 0x16D69 then some (0, {})
    else if c.toNat = 0x16D67 then some (0, { kind := .kiratAi })
    else if c.toNat = 0x16D68 then some (1, { kind := .kiratE })
    else none
  | .kiratAi, _ => if c.toNat = 0x16D63 then some (0, {}) else none
  | .lamed, false | .ya, false | .turkicI, false | .picture, false | .newline, _ | .other, _ => none

/-- The cells that a character adds when no selector of its shape follows it, and what it is to the
character before it. -/
def advance (c : Char) (next : Follower) : Int × Follower :=
  if c.toNat ≤ 0xA0 then
    if c = '\n' then (0, { kind := .newline })
    else if c = '\r' ∧ next.kind = .newline then (0, {})
    else (1, {})
  else
    match selector? c with
    | some shape => (0, next.select shape)
    | none =>
      if c.toNat = 0x200D ∧ (next.kind = .picture ∧ ¬next.joined ∨ next.kind = .modifier) then
        (0, { kind := .picture, joined := true })
      else if c.toNat = 0x200D ∧ next.kind.merges ∧ next.kind ≠ .alef then
        (0, { next with joined := true })
      else if next.kind.merges ∧ inRanges transparentRanges c then (0, next)
      else (next.merged? c).getD (cellWidth c, { kind := .ofChar c })

/-- The cells that a character adds to the width of what follows it, and what it is to the character
before it. -/
def step (c : Char) (next : Follower) : Int × Follower :=
  if next.selector = some .picture ∧ Emoji.takesPictureSelector c then
    (if next.kind = .picture ∧ next.joined then 0 else 2, { kind := .picture })
  else if next.selector = some .plain ∧ Emoji.takesPlainSelector c then (1, {})
  else if (selector? c).isSome then next.advance c
  else next.withoutSelector.advance c

end Follower

/-- The width of a text, and what it is to a character before it. -/
def measure : Text → Int × Follower
  | [] => (0, {})
  | c :: rest =>
    let (sum, next) := measure rest
    let (added, follower) := next.step c
    (sum + added, follower)

/-- The number of cells of a text. -/
def width (s : Text) : Nat := (measure s).1.toNat

end DeclLang.Text
