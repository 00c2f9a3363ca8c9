import DeclLang.Proofs.LiteralPattern

/-!
# Shapes in any order

Inference tries the seven shapes of literals one after another, but no order is better than another:
a text has at most one shape. Its first character tells strings, characters and words from numbers,
and a number is told by what its digits leave of it, a suffix letter or nothing, and by its point.
So there is one candidate for every text, and whichever shape a text has is that one.
-/

namespace DeclLang.Literal

/-- The shapes that make a text a literal. -/
inductive Shape where
  | boolean
  | string
  | char
  | float
  | double
  | long
  | integer
deriving DecidableEq, Repr

namespace Shape

open scoped Computability
open Pattern

/-- Every shape, in the order in which inference tries them. -/
def all : List Shape := [.boolean, .string, .char, .float, .double, .long, .integer]

/-- The pattern that the texts of a shape match. -/
def pattern : Shape → Language Char
  | .boolean => {"true".toList, "false".toList}
  | .string => quoted '"' (symbol '"')∗
  | .char => quoted '\'' (symbol '\'')
  | .float => sign * (pointed + digits) * letter ['f', 'F']
  | .double => sign * (pointed * (1 + letter ['d', 'D']) + digits * letter ['d', 'D'])
  | .long => sign * digits * letter ['l', 'L']
  | .integer => sign * digits

/-- Whether a text has a shape. -/
def test : Shape → Text → Bool
  | .boolean => Word.isBoolean
  | .string => isString
  | .char => isChar
  | .float => isFloat
  | .double => isDouble
  | .long => isLong
  | .integer => isInteger

/-- The type of a text of a shape. -/
def type (e : Text) : Shape → PrimitiveType
  | .boolean => .boolean
  | .string => .string
  | .char => .char
  | .float => .float
  | .double => .double
  | .long => .long
  | .integer => ((Number.value? e).map narrowest).getD .long

variable {shape : Shape} {e : Text} {order : List Shape}

/-- The texts of a shape are those of its pattern. -/
theorem test_iff_mem_pattern : shape.test e ↔ e ∈ shape.pattern := by
  cases shape with
  | boolean => exact Word.isBoolean_iff_eq
  | string => exact isString_iff_mem
  | char => exact isChar_iff_mem
  | float =>
    rw [test, pattern, mul_add, isCutWhere_pointed_or_digits.mem_mul_letter_iff (by decide),
      isFloat_iff]
  | double =>
    have hsplit : pattern .double =
        sign * pointed + (sign * pointed + sign * digits) * letter ['d', 'D'] := by
      simp only [pattern, mul_add, mul_one, add_mul, mul_assoc, add_assoc]
    rw [test, hsplit, Language.mem_add, isCutWhere_pointed.mem_iff,
      isCutWhere_pointed_or_digits.mem_mul_letter_iff (by decide), isDouble_iff, and_or_left,
      and_assoc]
  | long =>
    rw [test, pattern, isCutWhere_digits.mem_mul_letter_iff (by decide), isLong_iff, and_assoc]
  | integer =>
    rw [test, pattern, isCutWhere_digits.mem_iff, isInteger_iff, and_assoc]

/-- The shape that a number may have, by what its digits leave and by its point. -/
def ofNumeral (n : Numeral) : Shape :=
  match n.rest with
  | [] => if n.fraction.isSome then .double else .integer
  | c :: _ => if c ∈ ['f', 'F'] then .float else if c ∈ ['d', 'D'] then .double else .long

/-- The only shape that a text may have, by its first character and, if none of the other shapes
starts with that, by its number. -/
def candidate (e : Text) : Shape :=
  if e.head? = some '"' then .string
  else if e.head? = some '\'' then .char
  else if e.head?.any Word.isStart then .boolean
  else ofNumeral (Numeral.read e)

/-- The candidate for a number is a shape of numbers. -/
theorem candidate_of_isNumber (h : IsNumber e) : candidate e = ofNumeral (Numeral.read e) := by
  obtain ⟨p, hfirst⟩ := isNumber_iff.1 h
  obtain ⟨c, hc, hstart⟩ := Number.isStart_of_first? hfirst
  have hhead : e.head? = some c := hc
  have hquote (quote : Char) (hquote : Number.isStart quote = false) : c ≠ quote := by
    rintro rfl
    rw [hstart] at hquote
    contradiction
  have hword : Word.isStart c = false := by
    by_contra hword
    rw [Number.isStart_eq_false_of_isStart (by simpa using hword)] at hstart
    contradiction
  simp [candidate, hhead, hquote '"' (by decide), hquote '\'' (by decide), hword]

/-- The shape of a text is its candidate. -/
theorem eq_candidate (h : shape.test e) : shape = candidate e := by
  have hdouble : ∀ c ∈ ['d', 'D'], c ∉ ['f', 'F'] := by simp
  have hlong : ∀ c ∈ ['l', 'L'], c ∉ ['f', 'F'] ∧ c ∉ ['d', 'D'] := by simp
  cases shape with
  | boolean =>
    rcases Word.isBoolean_iff_eq.1 h with rfl | rfl <;> decide
  | string =>
    obtain ⟨u, rfl, -⟩ := Quoted.front?_eq_self_iff.1 (eq_of_beq h)
    rfl
  | char =>
    obtain ⟨u, rfl, -⟩ := Quoted.front?_eq_self_iff.1 (isChar_iff.1 h).1
    rfl
  | float =>
    obtain ⟨-, c, hc, hrest⟩ := isFloat_iff.1 h
    rw [candidate_of_isNumber (.inl h), ofNumeral, hrest]
    exact (if_pos hc).symm
  | double =>
    rw [candidate_of_isNumber (.inr (.inl h)), ofNumeral]
    rcases (isDouble_iff.1 h).2 with ⟨hpoint, hrest⟩ | ⟨c, hc, hrest⟩
    · rw [hrest]
      exact (if_pos hpoint).symm
    · rw [hrest]
      simp [hdouble c hc, hc]
  | long =>
    obtain ⟨-, -, c, hc, hrest⟩ := isLong_iff.1 h
    rw [candidate_of_isNumber (.inr (.inr (.inl h))), ofNumeral, hrest]
    simp [hlong c hc]
  | integer =>
    obtain ⟨-, hpoint, hrest⟩ := isInteger_iff.1 h
    rw [candidate_of_isNumber (.inr (.inr (.inr h))), ofNumeral, hrest]
    simp [hpoint]

/-- The type of a literal, after trimming, when shapes are tried in a given order. -/
def inferBy (order : List Shape) (expression : Text) : Option PrimitiveType :=
  (order.find? (·.test (Text.trim expression))).map (type (Text.trim expression))

/-- The first shape decides if the text has it. -/
theorem inferBy_cons : inferBy (shape :: order) e =
    if shape.test (Text.trim e) then some (shape.type (Text.trim e)) else inferBy order e := by
  rw [inferBy, List.find?_cons]
  cases h : shape.test (Text.trim e) <;> rfl

/-- Inference tries all shapes in its own order. -/
theorem infer_eq_inferBy_all (e : Text) : infer e = inferBy all e := by
  simp only [all, inferBy_cons]
  rfl

/-- When every shape is tried, a text has the type of the shape whose pattern it matches. -/
theorem inferBy_eq_some_iff (horder : ∀ shape, shape ∈ order) {result : PrimitiveType} :
    inferBy order e = some result ↔
      ∃ shape : Shape, Text.trim e ∈ shape.pattern ∧ shape.type (Text.trim e) = result := by
  have hfound {shape : Shape} (h : order.find? (·.test (Text.trim e)) = some shape) :
      shape.test (Text.trim e) := by simpa using List.find?_some h
  rw [inferBy, Option.map_eq_some_iff]
  constructor
  · rintro ⟨shape, hfind, htype⟩
    exact ⟨shape, test_iff_mem_pattern.1 (hfound hfind), htype⟩
  · rintro ⟨shape, hpattern, htype⟩
    have htest := test_iff_mem_pattern.2 hpattern
    obtain ⟨first, hfind⟩ : ∃ first, order.find? (·.test (Text.trim e)) = some first := by
      rw [← Option.isSome_iff_exists, List.find?_isSome]
      exact ⟨shape, horder shape, htest⟩
    -- the first shape that is found need not be this one, but the text has both
    obtain rfl : first = shape := (eq_candidate (hfound hfind)).trans (eq_candidate htest).symm
    exact ⟨first, hfind, htype⟩

end Shape

/-- A text matches the pattern of at most one shape, and the tests that inference makes are those
patterns. So it makes no difference in which order inference tries the shapes. -/
theorem infer_in_any_order (e : Text) {order : List Shape} (horder : order.Perm Shape.all) :
    (∀ shape : Shape, shape.test e ↔ e ∈ shape.pattern) ∧
    (∀ p q : Shape, e ∈ p.pattern → e ∈ q.pattern → p = q) ∧
    Shape.inferBy order e = infer e := by
  have hall : ∀ shape, shape ∈ Shape.all := by
    intro shape
    cases shape <;> decide
  refine ⟨fun shape => Shape.test_iff_mem_pattern, fun p q hp hq => ?_, ?_⟩
  · have hp := Shape.eq_candidate (Shape.test_iff_mem_pattern.2 hp)
    have hq := Shape.eq_candidate (Shape.test_iff_mem_pattern.2 hq)
    exact hp.trans hq.symm
  · ext result
    rw [Shape.infer_eq_inferBy_all, Shape.inferBy_eq_some_iff fun shape => ?_,
      Shape.inferBy_eq_some_iff hall]
    exact horder.mem_iff.2 (hall shape)

/-- A number with a point and a suffix letter, when the last shape is tried first. -/
theorem infer_backwards_double :
    Shape.all.reverse.Perm Shape.all ∧
    Shape.inferBy Shape.all.reverse " -7.d".toList = infer " -7.d".toList ∧
    infer " -7.d".toList = some .double ∧
    ∀ q : Shape, "-7.d".toList ∈ q.pattern → q = .double := by
  have horder : Shape.all.reverse.Perm Shape.all := List.reverse_perm Shape.all
  obtain ⟨hpattern, hunique, -⟩ := infer_in_any_order "-7.d".toList horder
  have hdouble : "-7.d".toList ∈ Shape.pattern .double := (hpattern .double).1 (by decide +kernel)
  exact ⟨horder, (infer_in_any_order " -7.d".toList horder).2.2, by decide +kernel,
    fun q hq => hunique q .double hq hdouble⟩

end DeclLang.Literal
