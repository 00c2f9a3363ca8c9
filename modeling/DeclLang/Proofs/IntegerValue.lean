import DeclLang.Finding
import DeclLang.Proofs.FirstProduction
import DeclLang.Proofs.NumberShape
import DeclLang.Proofs.StatementSplit

/-!
# Integers by value

The value of an integer is read digit by digit into a word of 128 bits. The reading gives up at the
first digit where the word is too short, and as every digit leads further away from zero, it does so
just when the word is too short for the value itself. Such an integer counts as a `long`, like all
that no narrower type holds. Whether a variable takes an integer therefore depends on the value
alone, however long the integer is and however many zeros are in front of it.
-/

namespace DeclLang

namespace Number

/-- A magnitude with a sign. -/
def signed (negative : Bool) (magnitude : Nat) : Int := if negative then -magnitude else magnitude

variable {negative : Bool} {m n : Nat} {c : Char} {digits s : Text} {value held : Int}

/-- A word is too short for values far from zero. -/
theorem held?_eq_none_iff : held? value = none ↔
    value < -170141183460469231731687303715884105728 ∨
      170141183460469231731687303715884105727 < value := by
  rw [held?, ite_eq_right_iff]
  simp only [reduceCtorEq, imp_false]
  omega

/-- A word holds a value as it is. -/
theorem held?_eq_some (h : held? value = some held) : held = value := by
  simp only [held?, Option.ite_none_right_eq_some, Option.some.injEq] at h
  exact h.2.symm

/-- A word that is too short for a magnitude is too short for all greater ones. -/
theorem held?_signed_eq_none (hle : m ≤ n) (h : held? (signed negative m) = none) :
    held? (signed negative n) = none := by
  rw [held?_eq_none_iff] at h ⊢
  cases negative
  · simp only [signed, Bool.false_eq_true, if_false] at h ⊢
    omega
  · simp only [signed, if_true] at h ⊢
    omega

/-- One more ASCII digit is read if a word holds the value that it makes. -/
theorem nextValue?_signed (hc : c.isDigit) : nextValue? negative (signed negative m) c =
    held? (signed negative (10 * m + (c.toNat - '0'.toNat))) := by
  have hten : 10 * signed negative m = signed negative (10 * m) := by
    cases negative <;> simp only [signed, if_true, Bool.false_eq_true, if_false] <;> omega
  have hdigit (digit : Nat) :
      (if negative then signed negative (10 * m) - digit else signed negative (10 * m) + digit) =
        signed negative (10 * m + digit) := by
    cases negative
    · simp [signed]
    · simp only [signed, if_true]
      omega
  rw [nextValue?, if_pos hc, hten]
  cases hheld : held? (signed negative (10 * m)) with
  | none => exact (held?_signed_eq_none (Nat.le_add_right _ _) hheld).symm
  | some held =>
    rw [held?_eq_some hheld, Option.bind_some, hdigit]

/-- Digits do not make a value smaller. -/
theorem le_ofDigitChars (digits : Text) (m : Nat) : m ≤ Nat.ofDigitChars 10 digits m := by
  induction digits generalizing m with
  | nil => simp
  | cons c digits ih =>
    rw [Nat.ofDigitChars_cons]
    have hstep := ih (10 * m + (c.toNat - '0'.toNat))
    omega

/-- ASCII digits are read if a word holds the value that all of them make. -/
theorem foldlM_nextValue?_signed (hdigits : ∀ c ∈ digits, c.isDigit)
    (hm : held? (signed negative m) = some (signed negative m)) :
    digits.foldlM (nextValue? negative) (signed negative m) =
      held? (signed negative (Nat.ofDigitChars 10 digits m)) := by
  induction digits generalizing m with
  | nil => simpa using hm.symm
  | cons c digits ih =>
    obtain ⟨hc, hrest⟩ := List.forall_mem_cons.1 hdigits
    rw [List.foldlM_cons, nextValue?_signed hc, Nat.ofDigitChars_cons]
    cases hheld : held? (signed negative (10 * m + (c.toNat - '0'.toNat))) with
    | none => exact (held?_signed_eq_none (le_ofDigitChars digits _) hheld).symm
    | some held =>
      obtain rfl := held?_eq_some hheld
      exact ih hrest hheld

/-- An integer in ASCII digits has its value if a word holds it. -/
theorem value?_eq_held? (h : ∀ c ∈ (Numeral.read s).whole, c.isDigit) :
    value? s = held? (signed ((Numeral.read s).sign ≠ [])
      (Nat.ofDigitChars 10 (Numeral.read s).whole 0)) := by
  have hread (negative : Bool) : (Numeral.read s).whole.foldlM (nextValue? negative) 0 =
      held? (signed negative (Nat.ofDigitChars 10 (Numeral.read s).whole 0)) := by
    have hzero : signed negative 0 = 0 := by cases negative <;> rfl
    have hstart : held? (signed negative 0) = some (signed negative 0) := by
      rw [hzero]
      rfl
    simpa only [hzero] using foldlM_nextValue?_signed h hstart
  exact hread _

/-- An integer with a digit of another script has no value. -/
theorem value?_eq_none (hc : c ∈ (Numeral.read s).whole) (hforeign : c.isDigit = false) :
    value? s = none := by
  rw [value?]
  generalize (0 : Int) = value
  generalize (Numeral.read s).whole = digits at hc
  induction digits generalizing value with
  | nil => contradiction
  | cons d digits ih =>
    rw [List.foldlM_cons]
    cases hnext : nextValue? ((Numeral.read s).sign ≠ []) value d with
    | none => rfl
    | some next =>
      apply ih
      rcases List.mem_cons.1 hc with rfl | hrest
      · simp [nextValue?, hforeign] at hnext
      · exact hrest

end Number

namespace Literal

variable {e : Text} {c : Char}

/-- An integer without a suffix has nothing but digits behind its sign. -/
theorem mem_whole_of_isInteger (h : isInteger e) (hc : c ∈ e) (hsign : c ≠ '-') :
    c ∈ (Numeral.read e).whole := by
  obtain ⟨-, hfraction, hrest⟩ := isInteger_iff.1 h
  rw [Numeral.eq_body_iff.2 hrest, Numeral.body_of_fraction_eq_none hfraction] at hc
  rcases List.mem_append.1 hc with hmem | hwhole
  · rcases (Numeral.isCut_read e).sign with heq | heq <;> simp_all
  · exact hwhole

/-- An integer without a suffix consists of a sign and digits. -/
theorem mem_of_isInteger (h : isInteger e) (hc : c ∈ e) : c = '-' ∨ Text.isDigit c := by
  by_cases hsign : c = '-'
  · exact .inl hsign
  · exact .inr ((Numeral.isCut_read e).whole c (mem_whole_of_isInteger h hc hsign))

/-- A boolean literal has its last letter. -/
theorem mem_of_isBoolean (h : Word.isBoolean e) : 'e' ∈ e := by
  rcases Word.isBoolean_iff_eq.1 h with rfl | rfl <;> decide

/-- A string has its quotes. -/
theorem mem_of_isString (h : isString e) : '"' ∈ e := by
  obtain ⟨rest, -, he, -, -⟩ := Quoted.front?_eq_some_iff.1 (eq_of_beq h)
  simp [he]

/-- A character has its quotes. -/
theorem mem_of_isChar (h : isChar e) : '\'' ∈ e := by
  unfold isChar at h
  split at h
  · simp only [Bool.and_eq_true, decide_eq_true_eq] at h
    simp [h.1.1.1]
  · simp only [Bool.and_eq_true, decide_eq_true_eq] at h
    simp [h.1.1.1]
  · contradiction

/-- An integer without a suffix has its type by value. -/
theorem infer_of_isInteger (h : isInteger (Text.trim e)) :
    infer e = some (((Number.value? (Text.trim e)).map narrowest).getD .long) := by
  have hnone {c : Char} (hc : c ≠ '-' ∧ Text.isDigit c = false) : c ∉ Text.trim e := by
    intro hmem
    rcases mem_of_isInteger h hmem with rfl | hdigit <;> simp_all
  obtain ⟨-, hfraction, hrest⟩ := isInteger_iff.1 h
  have hboolean : Word.isBoolean (Text.trim e) = false :=
    Bool.eq_false_iff.2 fun hword => hnone (by decide) (mem_of_isBoolean hword)
  have hstring : isString (Text.trim e) = false :=
    Bool.eq_false_iff.2 fun hquoted => hnone (by decide) (mem_of_isString hquoted)
  have hchar : isChar (Text.trim e) = false :=
    Bool.eq_false_iff.2 fun hquoted => hnone (by decide) (mem_of_isChar hquoted)
  have hfloat : isFloat (Text.trim e) = false := by
    simp [Bool.eq_false_iff, isFloat_iff, hrest]
  have hdouble : isDouble (Text.trim e) = false := by
    simp [Bool.eq_false_iff, isDouble_iff, hrest, hfraction]
  have hlong : isLong (Text.trim e) = false := by
    simp [Bool.eq_false_iff, isLong_iff, hrest]
  simp [infer, hboolean, hstring, hchar, hfloat, hdouble, hlong, h]

/-- An integer that a word is too short for is of no type narrower than `long`. -/
theorem narrowest_eq_long {value : Int} (h : Number.held? value = none) :
    narrowest value = .long := by
  rw [Number.held?_eq_none_iff] at h
  unfold narrowest
  rw [if_neg (by omega), if_neg (by omega), if_neg (by omega)]

/-- Reading a value into a word does not change its narrowest type. -/
theorem map_narrowest_held? (value : Int) :
    ((Number.held? value).map narrowest).getD .long = narrowest value := by
  cases h : Number.held? value with
  | none => exact (narrowest_eq_long h).symm
  | some held => rw [Number.held?_eq_some h, Option.map_some, Option.getD_some]

end Literal

/-- An integer as it is written with ASCII digits. -/
structure AsciiInteger where
  negative : Bool
  digits : Text
  digits_ne_nil : digits ≠ []
  isDigit : ∀ c ∈ digits, c.isDigit

namespace AsciiInteger

variable (i : AsciiInteger)

/-- The sign of an integer. -/
def sign : Text := if i.negative then ['-'] else []

/-- The text of an integer. -/
def text : Text := i.sign ++ i.digits

/-- The value of an integer. -/
def value : Int := Number.signed i.negative (Nat.ofDigitChars 10 i.digits 0)

/-- The parts of the text are the sign and the digits. -/
theorem read_text : Numeral.read i.text = ⟨i.sign, i.digits, none, []⟩ := by
  have hdigits : ∀ c ∈ i.digits, Text.isDigit c := fun c hc =>
    Text.isDigit_of_asciiDigit (i.isDigit c hc)
  have hcut : Numeral.IsCut ⟨i.sign, i.digits, none, []⟩ := by
    refine ⟨?_, hdigits, ?_, ?_, ?_, ?_⟩
    · cases h : i.negative <;> simp [sign, h]
    all_goals simp
  simpa [text, Numeral.body] using Numeral.read_body_append_rest hcut

/-- The text has the shape of an integer. -/
theorem isInteger_text : Literal.isInteger i.text := by
  rw [Literal.isInteger_iff, read_text]
  exact ⟨.inl i.digits_ne_nil, rfl, rfl⟩

/-- The text has no outer blanks. -/
theorem trim_text : Text.trim i.text = i.text := by
  have hblank {c : Char} (hc : c ∈ i.text) : Text.isBlank c = false := by
    rcases Literal.mem_of_isInteger i.isInteger_text hc with rfl | hdigit
    · decide
    · exact Text.isBlank_eq_false_of_isDigit hdigit
  exact Text.trim_eq_self (fun c hc => hblank (List.mem_of_mem_head? hc))
    (fun c hc => hblank (List.mem_of_mem_getLast? hc))

/-- An integer has the narrowest type that holds its value. -/
theorem infer_text : Literal.infer i.text = some (Literal.narrowest i.value) := by
  have hvalue : Number.value? i.text = Number.held? i.value := by
    have hdigits : ∀ c ∈ (Numeral.read i.text).whole, c.isDigit := by
      rw [read_text]
      exact i.isDigit
    have hsign : decide (i.sign ≠ []) = i.negative := by cases h : i.negative <;> simp [sign, h]
    rw [Number.value?_eq_held? hdigits, read_text, hsign, value]
  rw [Literal.infer_of_isInteger (by rw [trim_text]; exact i.isInteger_text), trim_text, hvalue,
    Literal.map_narrowest_held?]

end AsciiInteger

namespace PrimitiveType

/-- A variable of a type takes an integer of a value: the three narrow types take what their bits
hold, the wider numbers take every integer, and the other types take none. -/
def Holds : PrimitiveType → Int → Prop
  | .byte, n => -128 ≤ n ∧ n ≤ 127
  | .short, n => -32768 ≤ n ∧ n ≤ 32767
  | .int, n => -2147483648 ≤ n ∧ n ≤ 2147483647
  | .long, _ | .float, _ | .double, _ => True
  | .char, _ | .boolean, _ | .string, _ => False

instance : (type : PrimitiveType) → (n : Int) → Decidable (type.Holds n)
  | .byte, _ | .short, _ | .int, _ => inferInstanceAs (Decidable (_ ∧ _))
  | .long, _ | .float, _ | .double, _ => inferInstanceAs (Decidable True)
  | .char, _ | .boolean, _ | .string, _ => inferInstanceAs (Decidable False)

/-- The ladder of types leads to those that hold an integer. -/
theorem accepts_narrowest_iff {type : PrimitiveType} {n : Int} :
    type.accepts (Literal.narrowest n) ↔ type.Holds n := by
  unfold Literal.narrowest
  split_ifs with hbyte hshort hint <;> cases type <;>
    simp [accepts, rank?, Holds] <;> omega

end PrimitiveType

/-- An integer is judged by its value. A variable that starts with it is declared, and there is a
mismatch besides just when the type of the variable does not hold the value. -/
theorem check_integer (i : AsciiInteger) (type : PrimitiveType) (identifier : Text) :
    check (Tree.ofDeclarations [⟨type.name.toList, identifier, i.text⟩]) =
      .declared identifier type ::
        if type.Holds i.value then []
        else [.mismatch (Literal.narrowest i.value) i.text identifier type] := by
  have hmismatch : Declaration.mismatch? type ⟨type.name.toList, identifier, i.text⟩ =
      if type.Holds i.value then none
      else some (.mismatch (Literal.narrowest i.value) i.text identifier type) := by
    simp only [Declaration.mismatch?, i.infer_text, i.trim_text,
      PrimitiveType.accepts_narrowest_iff]
  have hfindings : check (Tree.ofDeclarations [⟨type.name.toList, identifier, i.text⟩]) =
      .declared identifier type ::
        (Declaration.mismatch? type ⟨type.name.toList, identifier, i.text⟩).toList := by
    simp [check, checkFrom, Declaration.findings]
  rw [hfindings, hmismatch]
  split <;> rfl

/-- An integer behind a zero is too far from zero for the narrowest type. -/
theorem check_integer_behind_zero : ∃ i : AsciiInteger, i.text = "-0300".toList ∧ i.value = -300 ∧
    check (Tree.ofDeclarations [⟨"byte".toList, ['n'], "-0300".toList⟩]) =
      [.declared ['n'] .byte, .mismatch .short "-0300".toList ['n'] .byte] ∧
    check (Tree.ofDeclarations [⟨"short".toList, ['n'], "-0300".toList⟩]) =
      [.declared ['n'] .short] := by
  let i : AsciiInteger := ⟨true, ['0', '3', '0', '0'], by decide, by simp⟩
  have hvalue : i.value = -300 := by decide
  refine ⟨i, rfl, hvalue, (check_integer i .byte ['n']).trans ?_,
    (check_integer i .short ['n']).trans ?_⟩
  · rw [hvalue, if_neg (by decide)]
    rfl
  · rw [hvalue, if_pos (by decide)]

/-- One more than a word holds, behind zeros. -/
example : check (Tree.ofDeclarations
      [⟨"int".toList, ['n'], "-00170141183460469231731687303715884105729".toList⟩]) =
    [.declared ['n'] .int,
      .mismatch .long "-00170141183460469231731687303715884105729".toList ['n'] .int] := by
  decide +kernel

end DeclLang
