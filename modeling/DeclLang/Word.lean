import DeclLang.PrimitiveType

/-!
# Words

A word starts with an ASCII letter or an underscore and continues with those and ASCII digits.
The type names and the two boolean literals are reserved; a reserved word still has the shape of
an identifier.
-/

namespace DeclLang.Word

/-- Whether a character may start a word. -/
def isStart (c : Char) : Bool := c.isAlpha || c == '_'

/-- Whether a character may continue a word. -/
def isPart (c : Char) : Bool := c.isAlphanum || c == '_'

/-- The longest word at the front of a text. -/
def front? : Text → Option Text
  | [] => none
  | c :: rest => if isStart c then some (c :: rest.takeWhile isPart) else none

/-- A word found at the front of a text is a front of it. -/
theorem front?_isFront {s w : Text} (h : front? s = some w) : Text.IsFront w s := by
  unfold front? at h
  split at h
  · simp at h
  · simp only [Option.ite_none_right_eq_some, Option.some.injEq] at h
    obtain ⟨-, rfl⟩ := h
    exact ⟨by simpa using List.takeWhile_prefix _, by simp⟩

/-- Whether a whole text has the shape of an identifier. -/
def isIdentifier : Text → Bool
  | [] => false
  | c :: rest => isStart c && rest.all isPart

/-- Whether a text is the spelling of a primitive type. -/
def isTypeName (word : Text) : Bool := (PrimitiveType.ofName? word).isSome

/-- Whether a text is one of the two boolean literals. -/
def isBoolean (word : Text) : Bool := word == "true".toList || word == "false".toList

/-- Whether a text is a reserved word. -/
def isReserved (word : Text) : Bool := isTypeName word || isBoolean word

/-- A text is an identifier exactly when its front word is all of it. -/
theorem front?_eq_self {word : Text} : front? word = some word ↔ isIdentifier word := by
  have key (rest : Text) : rest.takeWhile isPart = rest ↔ rest.all isPart := by
    induction rest with
    | nil => simp
    | cons c rest ih => by_cases h : isPart c <;> simp [h, ih]
  cases word with
  | nil => simp [front?, isIdentifier]
  | cons c rest =>
    simp only [front?, isIdentifier, Bool.and_eq_true, Option.ite_none_right_eq_some,
      Option.some.injEq, List.cons.injEq, true_and, key]

end DeclLang.Word
