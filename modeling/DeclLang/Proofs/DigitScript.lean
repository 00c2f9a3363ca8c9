import DeclLang.Proofs.IntegerValue
import DeclLang.Proofs.LiteralToken

/-!
# Digits of other scripts

The shapes of literals take the digits of every script, and none of them changes when each digit is
replaced by the ASCII digit of its value. The value of an integer is read from ASCII digits only. So
the type of a literal depends on the values of its digits alone, unless it is an integer without a
suffix and has a digit of another script: then it counts as a `long`, whatever its value is.
-/

namespace DeclLang

namespace Text

/-- The ASCII digit of the same value, for a decimal digit; any other character stays. -/
def asciiDigit (c : Char) : Char := ((digitValue? c).map Nat.digitChar).getD c

/-- A text in ASCII digits. -/
def asciiDigits (s : Text) : Text := s.map asciiDigit

variable {c d : Char} {s w : Text} {value : Nat}

@[simp] theorem asciiDigits_nil : asciiDigits [] = [] := rfl

@[simp] theorem asciiDigits_cons (c : Char) (s : Text) :
    asciiDigits (c :: s) = asciiDigit c :: asciiDigits s := rfl

/-- The values of digits are less than ten. -/
theorem digitValue?_lt (h : digitValue? c = some value) : value < 10 := by
  obtain ⟨first, hfirst, rfl⟩ := Option.map_eq_some_iff.1 h
  have hrange := List.find?_some hfirst
  simp only [Bool.and_eq_true, decide_eq_true_eq] at hrange
  omega

/-- A character that is no digit stays. -/
theorem asciiDigit_of_not_isDigit (h : isDigit c = false) : asciiDigit c = c := by
  rw [isDigit, Option.isSome_eq_false_iff, Option.isNone_iff_eq_none] at h
  simp [asciiDigit, h]

/-- A digit becomes an ASCII digit. -/
theorem asciiDigit_isDigit (h : isDigit c) : (asciiDigit c).isDigit := by
  obtain ⟨value, hvalue⟩ := Option.isSome_iff_exists.1 h
  have hdigits : ∀ value < 10, (Nat.digitChar value).isDigit := by decide
  rw [asciiDigit, hvalue]
  exact hdigits value (digitValue?_lt hvalue)

/-- An ASCII digit stays. -/
theorem asciiDigit_of_isDigit (h : c.isDigit) : asciiDigit c = c := by
  obtain ⟨hlow, hhigh⟩ : 48 ≤ c.toNat ∧ c.toNat < 58 := by
    have hrange := Char.isDigit_iff_toNat.1 h
    simpa [Nat.lt_succ_iff] using hrange
  have hvalue : digitValue? c = some (c.toNat - 48) := by
    simp [digitValue?, digitZeros, hlow, hhigh]
  have hdigits : ∀ value < 10, Nat.digitChar value = Char.ofNat (48 + value) := by decide
  rw [asciiDigit, hvalue, Option.map_some, Option.getD_some, hdigits _ (by omega),
    Nat.add_sub_cancel' hlow, Char.ofNat_toNat]

/-- A digit stays a digit, and no other character becomes one. -/
theorem isDigit_asciiDigit (c : Char) : isDigit (asciiDigit c) = isDigit c := by
  cases h : isDigit c with
  | false => rw [asciiDigit_of_not_isDigit h, h]
  | true => exact isDigit_of_asciiDigit (asciiDigit_isDigit h)

/-- A blank stays a blank, and no other character becomes one. -/
theorem isBlank_asciiDigit (c : Char) : isBlank (asciiDigit c) = isBlank c := by
  cases h : isDigit c with
  | false => rw [asciiDigit_of_not_isDigit h]
  | true =>
    rw [isBlank_eq_false_of_isDigit h]
    exact isBlank_eq_false_of_isDigit (by rw [isDigit_asciiDigit, h])

/-- Only the character itself becomes one that is no digit. -/
theorem asciiDigit_eq_iff (hd : isDigit d = false) : asciiDigit c = d ↔ c = d := by
  cases h : isDigit c with
  | false => rw [asciiDigit_of_not_isDigit h]
  | true =>
    refine iff_of_false ?_ ?_
    · rintro rfl
      rw [isDigit_asciiDigit, h] at hd
      contradiction
    · rintro rfl
      rw [h] at hd
      contradiction

/-- Only the text itself becomes one without digits. -/
theorem asciiDigits_eq_iff (hw : w.all (!isDigit ·)) : asciiDigits s = w ↔ s = w := by
  induction s generalizing w with
  | nil => rfl
  | cons c s ih =>
    cases w with
    | nil => simp [asciiDigits]
    | cons d w =>
      rw [List.all_cons, Bool.and_eq_true, Bool.not_eq_true'] at hw
      rw [asciiDigits_cons, List.cons.injEq, List.cons.injEq, asciiDigit_eq_iff hw.1, ih hw.2]

/-- A text that changes has a digit of another script. -/
theorem exists_foreign (h : asciiDigits s ≠ s) : ∃ c ∈ s, isDigit c ∧ c.isDigit = false := by
  by_contra hnone
  apply h
  rw [asciiDigits]
  refine (List.map_congr_left fun c hc => ?_).trans (List.map_id s)
  cases hdigit : isDigit c with
  | false => exact asciiDigit_of_not_isDigit hdigit
  | true =>
    apply asciiDigit_of_isDigit
    by_contra hforeign
    exact hnone ⟨c, hc, hdigit, by simpa using hforeign⟩

/-- Trimming looks at no digits. -/
theorem trim_asciiDigits (s : Text) : trim (asciiDigits s) = asciiDigits (trim s) := by
  have hblank : isBlank ∘ asciiDigit = isBlank := funext isBlank_asciiDigit
  rw [trim, trimRight, trimLeft, asciiDigits, List.dropWhile_map, hblank, ← List.map_reverse,
    List.dropWhile_map, hblank, ← List.map_reverse]
  rfl

end Text

open Text

namespace Numeral

variable {n : Numeral} {letters : List Char}

/-- The parts of a number in ASCII digits. -/
def inAscii (n : Numeral) : Numeral :=
  ⟨n.sign, asciiDigits n.whole, n.fraction.map asciiDigits, asciiDigits n.rest⟩

@[simp] theorem isSome_fraction_inAscii : n.inAscii.fraction.isSome = n.fraction.isSome :=
  Option.isSome_map

@[simp] theorem fraction_inAscii_eq_none : n.inAscii.fraction = none ↔ n.fraction = none :=
  Option.map_eq_none_iff

@[simp] theorem rest_inAscii_eq_nil : n.inAscii.rest = [] ↔ n.rest = [] := List.map_eq_nil_iff

/-- There are digits before the point or behind it just when there were. -/
@[simp] theorem hasDigits_inAscii : n.inAscii.HasDigits ↔ n.HasDigits := by
  cases h : n.fraction <;> simp [HasDigits, inAscii, asciiDigits, h]

/-- The parts stay as long as possible. -/
theorem IsCut.inAscii (h : n.IsCut) : n.inAscii.IsCut := by
  have hdigits {digits : Text} (hall : ∀ c ∈ digits, isDigit c) :
      ∀ c ∈ asciiDigits digits, isDigit c := by
    intro c hc
    obtain ⟨d, hd, rfl⟩ := List.mem_map.1 hc
    rw [isDigit_asciiDigit]
    exact hall d hd
  have hhead {c : Char} (hc : isDigit c = false) :
      n.inAscii.rest.head? = some c ↔ n.rest.head? = some c := by
    cases hrest : n.rest with
    | nil => simp [Numeral.inAscii, asciiDigits, hrest]
    | cons d rest => simp [Numeral.inAscii, asciiDigits, hrest, asciiDigit_eq_iff hc]
  refine ⟨h.sign, hdigits h.whole, ?_, ?_, ?_, ?_⟩
  · intro digits hfraction
    obtain ⟨digits, hmem, rfl⟩ := Option.map_eq_some_iff.1 hfraction
    exact hdigits (h.fraction digits hmem)
  · intro c hc
    obtain ⟨d, hd, rfl⟩ : ∃ d ∈ n.rest.head?, asciiDigit d = c := by
      simpa [Numeral.inAscii, asciiDigits] using hc
    rw [isDigit_asciiDigit]
    exact h.rest_digit d hd
  · intro hfraction
    rw [ne_eq, hhead (by decide)]
    exact h.rest_point (fraction_inAscii_eq_none.1 hfraction)
  · intro hbody
    rw [ne_eq, hhead (by decide)]
    apply h.rest_sign
    cases hfraction : n.fraction <;> simp_all [body, Numeral.inAscii, asciiDigits]

/-- The parts of a text in ASCII digits. -/
theorem read_asciiDigits (s : Text) : read (asciiDigits s) = (read s).inAscii := by
  have hcut := isCut_read s
  have hloss := body_read_append_rest s
  generalize read s = n at hcut hloss
  have hsign : asciiDigits n.sign = n.sign := by
    rcases hcut.sign with heq | heq <;> rw [heq] <;> decide
  have hfraction : asciiDigits ((n.fraction.map ('.' :: ·)).getD []) =
      ((n.fraction.map asciiDigits).map ('.' :: ·)).getD [] := by
    cases n.fraction with
    | none => rfl
    | some digits => simp [asciiDigits, show asciiDigit '.' = '.' by decide]
  have htext : asciiDigits s = n.inAscii.body ++ n.inAscii.rest := by
    rw [← hloss, body, body, inAscii, asciiDigits, List.map_append, List.map_append,
      List.map_append]
    change asciiDigits n.sign ++ _ ++ asciiDigits ((n.fraction.map ('.' :: ·)).getD []) ++ _ = _
    rw [hsign, hfraction]
    rfl
  rw [htext]
  exact read_body_append_rest hcut.inAscii

/-- A suffix letter is left just when it was. -/
theorem rest_inAscii (hletters : letters.all (!isDigit ·)) :
    (∃ c ∈ letters, n.inAscii.rest = [c]) ↔ ∃ c ∈ letters, n.rest = [c] := by
  have hsame {c : Char} (hc : c ∈ letters) : n.inAscii.rest = [c] ↔ n.rest = [c] :=
    asciiDigits_eq_iff (by simpa using List.all_eq_true.1 hletters c hc)
  constructor
  · intro ⟨c, hc, hrest⟩
    exact ⟨c, hc, (hsame hc).1 hrest⟩
  · intro ⟨c, hc, hrest⟩
    exact ⟨c, hc, (hsame hc).2 hrest⟩

end Numeral

namespace Quoted

variable {quote : Char} {newlines : Bool} {s w : Text}

/-- The end of a literal is found where it was. -/
theorem tail?_asciiDigits (hquote : isDigit quote = false) :
    tail? quote newlines (asciiDigits s) = (tail? quote newlines s).map asciiDigits := by
  have hnewline {c : Char} : asciiDigit c = '\n' ↔ c = '\n' := asciiDigit_eq_iff (by decide)
  have hprotected {c : Char} (hc : c ≠ '\\') : asciiDigit c ≠ '\\' :=
    mt (asciiDigit_eq_iff (by decide)).1 hc
  have hbackslash : asciiDigit '\\' = '\\' := by decide
  fun_induction tail? quote newlines s with
  | case1 => rfl
  | case2 => rfl
  | case3 rest => simp [hbackslash, tail?, hnewline]
  | case4 c rest hc ih => simp [hbackslash, tail?, hnewline, hc, ih, Function.comp_def]
  | case5 rest hlone hpair =>
    rw [asciiDigits_cons, tail?_cons (hprotected (ne_backslash hlone hpair)),
      if_pos ((asciiDigit_eq_iff hquote).2 rfl)]
    rfl
  | case6 c rest hlone hpair hne hc =>
    rw [asciiDigits_cons, tail?_cons (hprotected (ne_backslash hlone hpair)),
      if_neg (mt (asciiDigit_eq_iff hquote).1 hne), if_pos (hc.imp_left hnewline.2)]
    rfl
  | case7 c rest hlone hpair hne hc ih =>
    rw [asciiDigits_cons, tail?_cons (hprotected (ne_backslash hlone hpair)),
      if_neg (mt (asciiDigit_eq_iff hquote).1 hne), if_neg (mt (And.imp_left hnewline.1) hc), ih]
    simp [Function.comp_def]

/-- The literal at the front of a text ends where it did. -/
theorem front?_asciiDigits (hquote : isDigit quote = false) :
    front? quote newlines (asciiDigits s) = (front? quote newlines s).map asciiDigits := by
  have hself : asciiDigit quote = quote := asciiDigit_of_not_isDigit hquote
  cases s with
  | nil => rfl
  | cons c rest =>
    by_cases hc : c = quote
    · simp [front?, hc, hself, tail?_asciiDigits hquote, Function.comp_def]
    · simp [front?, hc, asciiDigit_eq_iff hquote]

/-- A text is a literal just when it was. -/
theorem front?_asciiDigits_eq_self (hquote : isDigit quote = false) :
    front? quote newlines (asciiDigits w) = some (asciiDigits w) ↔
      front? quote newlines w = some w := by
  rw [front?_asciiDigits hquote, Option.map_eq_some_iff]
  constructor
  · intro ⟨v, hv, heq⟩
    have hlength : v.length = w.length := by simpa [asciiDigits] using congrArg List.length heq
    rwa [(front?_isFront hv).1.eq_of_length hlength] at hv
  · intro hw
    exact ⟨w, hw, rfl⟩

/-- A text between quotes is one character just when it was. -/
theorem isSingle_asciiDigits : (s : Text) → isSingle (asciiDigits s) = isSingle s
  | [] => rfl
  | [c] => by simp [isSingle, asciiDigit_eq_iff (c := c) (d := '\\') (by decide)]
  | [mark, _] => by simp [isSingle, asciiDigit_eq_iff (c := mark) (d := '\\') (by decide)]
  | _ :: _ :: _ :: _ => rfl

/-- The text between the quotes of a literal changes like the literal. -/
theorem content_asciiDigits : content (asciiDigits w) = asciiDigits (content w) := by
  rw [content, content, asciiDigits, asciiDigits, List.map_dropLast, List.map_tail]

end Quoted

namespace Literal

variable {e : Text}

/-- A text is a string just when it was. -/
theorem isString_asciiDigits : isString (asciiDigits e) = isString e := by
  rw [Bool.eq_iff_iff, isString, isString, beq_iff_eq, beq_iff_eq]
  exact Quoted.front?_asciiDigits_eq_self (by decide)

/-- A text is a character just when it was. -/
theorem isChar_asciiDigits : isChar (asciiDigits e) = isChar e := by
  rw [Bool.eq_iff_iff, isChar_iff, isChar_iff, Quoted.front?_asciiDigits_eq_self (by decide),
    Quoted.content_asciiDigits, Quoted.isSingle_asciiDigits]

/-- A text is a boolean literal just when it was. -/
theorem isBoolean_asciiDigits : Word.isBoolean (asciiDigits e) = Word.isBoolean e := by
  rw [Bool.eq_iff_iff]
  rw [Word.isBoolean_iff_eq, Word.isBoolean_iff_eq, asciiDigits_eq_iff (by decide),
    asciiDigits_eq_iff (by decide)]

/-- A text is a number of type `float` just when it was. -/
theorem isFloat_asciiDigits : isFloat (asciiDigits e) = isFloat e := by
  rw [Bool.eq_iff_iff]
  simp only [isFloat_iff, Numeral.read_asciiDigits, Numeral.hasDigits_inAscii]
  rw [Numeral.rest_inAscii (by decide)]

/-- A text is a number of type `double` just when it was. -/
theorem isDouble_asciiDigits : isDouble (asciiDigits e) = isDouble e := by
  rw [Bool.eq_iff_iff]
  simp only [isDouble_iff, Numeral.read_asciiDigits, Numeral.hasDigits_inAscii,
    Numeral.isSome_fraction_inAscii, Numeral.rest_inAscii_eq_nil]
  rw [Numeral.rest_inAscii (by decide)]

/-- A text is an integer with the suffix letter of `long` just when it was. -/
theorem isLong_asciiDigits : isLong (asciiDigits e) = isLong e := by
  rw [Bool.eq_iff_iff]
  simp only [isLong_iff, Numeral.read_asciiDigits, Numeral.hasDigits_inAscii,
    Numeral.fraction_inAscii_eq_none]
  rw [Numeral.rest_inAscii (by decide)]

/-- A text is an integer without a suffix just when it was. -/
theorem isInteger_asciiDigits : isInteger (asciiDigits e) = isInteger e := by
  rw [Bool.eq_iff_iff]
  simp only [isInteger_iff, Numeral.read_asciiDigits, Numeral.hasDigits_inAscii,
    Numeral.fraction_inAscii_eq_none, Numeral.rest_inAscii_eq_nil]

/-- An integer without a suffix has no value if one of its digits is of another script. -/
theorem value?_eq_none_of_foreign (h : isInteger e) (hforeign : asciiDigits e ≠ e) :
    Number.value? e = none := by
  obtain ⟨c, hc, hdigit, hascii⟩ := exists_foreign hforeign
  have hsign : c ≠ '-' := by
    rintro rfl
    exact absurd hdigit (by decide)
  exact Number.value?_eq_none (mem_whole_of_isInteger h hc hsign) hascii

/-- The type of a literal depends on its digits through their values alone, unless it is an integer
without a suffix that has a digit of another script: this one is a `long`. -/
theorem infer_asciiDigits (e : Text) :
    infer e = if isInteger (trim e) ∧ asciiDigits (trim e) ≠ trim e then some .long
      else infer (asciiDigits e) := by
  by_cases hinteger : isInteger (trim e)
  · by_cases hforeign : asciiDigits (trim e) = trim e
    · have hinteger' : isInteger (trim (asciiDigits e)) := by
        rw [trim_asciiDigits, hforeign]
        exact hinteger
      rw [if_neg fun h => h.2 hforeign, infer_of_isInteger hinteger, infer_of_isInteger hinteger',
        trim_asciiDigits, hforeign]
    · rw [if_pos ⟨hinteger, hforeign⟩, infer_of_isInteger hinteger,
        value?_eq_none_of_foreign hinteger hforeign]
      rfl
  · rw [if_neg fun h => hinteger h.1]
    simp only [infer, trim_asciiDigits, isBoolean_asciiDigits, isString_asciiDigits,
      isChar_asciiDigits, isFloat_asciiDigits, isDouble_asciiDigits, isLong_asciiDigits,
      isInteger_asciiDigits, hinteger, Bool.false_eq_true, if_false]

/-- A digit three of another script is a `long`, and the ASCII digit three is a `byte`. -/
theorem infer_foreign_three : asciiDigits ['٣'] = ['3'] ∧ infer ['٣'] = some .long ∧
    infer ['3'] = some .byte := by
  decide +kernel

end Literal

end DeclLang
