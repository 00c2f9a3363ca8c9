import DeclLang.Numeral
import DeclLang.Quoted
import DeclLang.Word

/-!
# Productions

The eight shapes a token can have at the front of a text, in the order in which they are tried.
Each production gives the stretch of text it matches, which is never empty.
-/

namespace DeclLang

/-- The shapes of tokens. -/
inductive Production where
  | stringLiteral
  | charLiteral
  | floatWithSuffix
  | floatPlain
  | integerWithSuffix
  | integerPlain
  | word
  | symbol
deriving DecidableEq, Repr

namespace Production

/-- Every production, in the order of precedence. -/
def all : List Production :=
  [.stringLiteral, .charLiteral, .floatWithSuffix, .floatPlain, .integerWithSuffix, .integerPlain,
    .word, .symbol]

/-- The operator and the punctuation marks. -/
def symbolFront? : Text → Option Text
  | c :: _ => if c = '=' ∨ c = ';' ∨ c = ',' then some [c] else none
  | [] => none

/-- The stretch of text that a production matches at the front of a text. -/
def front? : Production → Text → Option Text
  | .stringLiteral => Quoted.front? '"' false
  | .charLiteral => Quoted.front? '\'' false
  | .floatWithSuffix => Number.suffixed? ['f', 'F', 'd', 'D']
  | .floatPlain => Number.pointed?
  | .integerWithSuffix => Number.suffixedInteger? ['l', 'L']
  | .integerPlain => Number.integer?
  | .word => Word.front?
  | .symbol => symbolFront?

/-- What a production matches is a front of the text. -/
theorem front?_isFront {production : Production} {s w : Text} (h : production.front? s = some w) :
    Text.IsFront w s := by
  cases production with
  | stringLiteral | charLiteral => exact Quoted.front?_isFront h
  | floatWithSuffix => exact Number.suffixed?_isFront h
  | floatPlain => exact Number.pointed?_isFront h
  | integerWithSuffix => exact Number.suffixedInteger?_isFront h
  | integerPlain => exact Number.integer?_isFront h
  | word => exact Word.front?_isFront h
  | symbol =>
    simp only [front?] at h
    unfold symbolFront? at h
    split at h
    · simp only [Option.ite_none_right_eq_some, Option.some.injEq] at h
      obtain ⟨-, rfl⟩ := h
      exact ⟨by simp, by simp⟩
    · simp at h

/-- Every production that matches something at the front of a text, with what it matches. -/
def fronts (s : Text) : List (Production × Text) :=
  all.filterMap fun production => (production.front? s).map (production, ·)

/-- The first production, in the order of precedence, that matches something at the front of a
text. -/
def first? (s : Text) : Option (Production × Text) :=
  all.findSome? fun production => (production.front? s).map (production, ·)

/-- What the first production matches is a front of the text. -/
theorem first?_isFront {s w : Text} {production : Production}
    (h : first? s = some (production, w)) : Text.IsFront w s := by
  obtain ⟨p, -, hp⟩ := List.exists_of_findSome?_eq_some h
  obtain ⟨u, hu, heq⟩ := Option.map_eq_some_iff.1 hp
  cases heq
  exact front?_isFront hu

/-- The first match is the head of all matches. -/
theorem first?_eq_head? (s : Text) : first? s = (fronts s).head? := by
  simp [first?, fronts, List.head?_filterMap]

end Production

end DeclLang
