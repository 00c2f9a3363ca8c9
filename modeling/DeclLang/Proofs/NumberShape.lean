import DeclLang.Literal
import DeclLang.Proofs.Numeral

/-!
# Texts that are numbers

A reader of numbers takes a front of a text. It takes the whole text when there are digits and
nothing is left behind them but the suffix letter that it asks for. The four shapes of numeric
literals differ in that letter and in whether a point is needed, allowed or forbidden; together
they are the texts that are read as one number.
-/

namespace DeclLang

namespace Numeral

/-- There are digits before the point or behind it. -/
def HasDigits (n : Numeral) : Prop := n.whole ≠ [] ∨ ∃ digits ∈ n.fraction, digits ≠ []

/-- There is a number just when there are digits, and it is all that was cut off. -/
theorem decimal?_eq_some_iff {n : Numeral} {w : Text} :
    n.decimal? = some w ↔ n.HasDigits ∧ w = n.body := by
  obtain ⟨sign, whole, fraction, rest⟩ := n
  cases fraction with
  | none => simp [decimal?, HasDigits, eq_comm]
  | some digits => simp [decimal?, HasDigits, eq_comm, imp_iff_not_or]

/-- A text is the parts cut off it and something behind them just when that is the rest. -/
theorem eq_body_append_iff {w t : Text} : w = (read w).body ++ t ↔ (read w).rest = t := by
  have hloss := body_read_append_rest w
  constructor
  · intro h
    exact List.append_cancel_left (hloss.trans h)
  · rintro rfl
    exact hloss.symm

/-- A text is the parts cut off it just when nothing is left. -/
theorem eq_body_iff {w : Text} : w = (read w).body ↔ (read w).rest = [] := by
  rw [← eq_body_append_iff, List.append_nil]

/-- Without a point the parts are the sign and the digits. -/
theorem body_of_fraction_eq_none {n : Numeral} (h : n.fraction = none) :
    n.body = n.sign ++ n.whole := by
  simp [body, h]

end Numeral

namespace Number

open Numeral (decimal?_eq_some_iff eq_body_append_iff eq_body_iff)

variable {letters : List Char} {s w : Text}

/-- A number with a point is all that was cut off. -/
theorem pointed?_eq_some_iff : pointed? s = some w ↔
    (Numeral.read s).HasDigits ∧ (Numeral.read s).fraction.isSome ∧ w = (Numeral.read s).body := by
  simp only [pointed?, Option.ite_none_right_eq_some, decimal?_eq_some_iff]
  exact and_left_comm

/-- A number with a suffix letter is all that was cut off and the letter behind it. -/
theorem suffixed?_eq_some_iff : suffixed? letters s = some w ↔
    (Numeral.read s).HasDigits ∧ ∃ c ∈ letters, (Numeral.read s).rest.head? = some c ∧
      w = (Numeral.read s).body ++ [c] := by
  simp only [suffixed?]
  split
  · rename_i hrest
    simp [hrest]
  · rename_i c rest hrest
    simp only [Option.ite_none_right_eq_some, Option.map_eq_some_iff, decimal?_eq_some_iff, hrest,
      List.head?_cons, Option.some.injEq]
    constructor
    · rintro ⟨hc, body, ⟨hdigits, rfl⟩, rfl⟩
      exact ⟨hdigits, c, hc, rfl, rfl⟩
    · rintro ⟨hdigits, d, hd, rfl, rfl⟩
      exact ⟨hd, _, ⟨hdigits, rfl⟩, rfl⟩

/-- An integer with a suffix letter is a number with one in which there is no point. -/
theorem suffixedInteger?_eq_some_iff : suffixedInteger? letters s = some w ↔
    (Numeral.read s).fraction = none ∧ suffixed? letters s = some w := by
  rw [suffixedInteger?, Option.ite_none_left_eq_some, Option.not_isSome_iff_eq_none]

/-- An integer is the sign and the digits. -/
theorem integer?_eq_some_iff : integer? s = some w ↔
    (Numeral.read s).whole ≠ [] ∧ w = (Numeral.read s).sign ++ (Numeral.read s).whole := by
  simp only [integer?, Option.ite_none_left_eq_some, Option.some.injEq]
  exact and_congr_right fun _ => eq_comm

/-- A text is a number with a point when nothing is left behind such a number. -/
theorem pointed?_eq_self_iff : pointed? w = some w ↔
    (Numeral.read w).HasDigits ∧ (Numeral.read w).fraction.isSome ∧ (Numeral.read w).rest = [] := by
  rw [pointed?_eq_some_iff, eq_body_iff]

/-- A text is a number with a suffix letter when only the letter is left behind the number. -/
theorem suffixed?_eq_self_iff : suffixed? letters w = some w ↔
    (Numeral.read w).HasDigits ∧ ∃ c ∈ letters, (Numeral.read w).rest = [c] := by
  rw [suffixed?_eq_some_iff]
  refine and_congr_right fun _ => exists_congr fun c => and_congr_right fun _ => ?_
  rw [eq_body_append_iff]
  exact and_iff_right_of_imp fun hrest => by rw [hrest, List.head?_cons]

/-- A text is an integer with a suffix letter when there is no point in it and only the letter is
left behind the digits. -/
theorem suffixedInteger?_eq_self_iff : suffixedInteger? letters w = some w ↔
    (Numeral.read w).HasDigits ∧ (Numeral.read w).fraction = none ∧
      ∃ c ∈ letters, (Numeral.read w).rest = [c] := by
  rw [suffixedInteger?_eq_some_iff, suffixed?_eq_self_iff]
  exact and_left_comm

/-- A text is an integer when nothing is left behind its digits. -/
theorem integer?_eq_self_iff : integer? w = some w ↔
    (Numeral.read w).HasDigits ∧ (Numeral.read w).fraction = none ∧ (Numeral.read w).rest = [] := by
  have hloss := Numeral.body_read_append_rest w
  rw [integer?_eq_some_iff]
  cases hfraction : (Numeral.read w).fraction with
  | none =>
    rw [← Numeral.body_of_fraction_eq_none hfraction, eq_body_iff]
    simp [Numeral.HasDigits, hfraction]
  | some digits =>
    -- the point would have to be behind the end of the text
    refine iff_of_false ?_ (by simp)
    rintro ⟨-, hw⟩
    have hlonger := hloss.trans hw
    simp [Numeral.body, hfraction] at hlonger

/-- A number at the front of a text is all of it when nothing is left behind it but the suffix
letter that belongs to it. -/
theorem exists_first?_eq_self_iff : (∃ p, first? w = some (p, w)) ↔
    (Numeral.read w).HasDigits ∧ (Numeral.read w).rest = suffix (Numeral.read w) := by
  simp only [first?, Option.map_eq_some_iff, decimal?_eq_some_iff, Prod.mk.injEq]
  constructor
  · rintro ⟨p, body, ⟨hdigits, rfl⟩, -, hw⟩
    exact ⟨hdigits, eq_body_append_iff.1 hw.symm⟩
  · rintro ⟨hdigits, hrest⟩
    exact ⟨_, _, ⟨hdigits, rfl⟩, rfl, (eq_body_append_iff.2 hrest).symm⟩

/-- Nothing is left behind a number but its suffix letter when there is nothing there or one letter:
one that goes with any number, or one that goes with integers and no point in front of it. -/
theorem rest_eq_suffix_iff {n : Numeral} : n.rest = suffix n ↔
    n.rest = [] ∨ (∃ c ∈ ['f', 'F', 'd', 'D'], n.rest = [c]) ∨
      n.fraction = none ∧ ∃ c ∈ ['l', 'L'], n.rest = [c] := by
  unfold suffix production
  generalize ['f', 'F', 'd', 'D'] = floats
  generalize ['l', 'L'] = longs
  cases hrest : n.rest with
  | nil => simp
  | cons c rest =>
    have hsingle (letters : List Char) :
        (∃ d ∈ letters, c :: rest = [d]) ↔ c ∈ letters ∧ rest = [] := by
      simp only [List.cons.injEq, ← and_assoc, exists_and_right, exists_eq_right']
    rw [hsingle, hsingle]
    by_cases hfloat : c ∈ floats <;> by_cases hlong : c ∈ longs <;>
      cases hfraction : n.fraction <;> simp [hfloat, hlong]

end Number

namespace Literal

variable {e : Text}

/-- A number of type `float` leaves nothing but its suffix letter. -/
theorem isFloat_iff : isFloat e ↔
    (Numeral.read e).HasDigits ∧ ∃ c ∈ ['f', 'F'], (Numeral.read e).rest = [c] := by
  rw [isFloat, beq_iff_eq, Number.suffixed?_eq_self_iff]

/-- A number of type `double` has a point and leaves nothing, or leaves nothing but its suffix
letter. -/
theorem isDouble_iff : isDouble e ↔ (Numeral.read e).HasDigits ∧
    ((Numeral.read e).fraction.isSome ∧ (Numeral.read e).rest = [] ∨
      ∃ c ∈ ['d', 'D'], (Numeral.read e).rest = [c]) := by
  rw [isDouble, Bool.or_eq_true, beq_iff_eq, beq_iff_eq, Number.pointed?_eq_self_iff,
    Number.suffixed?_eq_self_iff, and_or_left]

/-- An integer with a suffix has no point and leaves nothing but its suffix letter. -/
theorem isLong_iff : isLong e ↔ (Numeral.read e).HasDigits ∧
    (Numeral.read e).fraction = none ∧ ∃ c ∈ ['l', 'L'], (Numeral.read e).rest = [c] := by
  rw [isLong, beq_iff_eq, Number.suffixedInteger?_eq_self_iff]

/-- An integer without a suffix has no point and leaves nothing. -/
theorem isInteger_iff : isInteger e ↔ (Numeral.read e).HasDigits ∧
    (Numeral.read e).fraction = none ∧ (Numeral.read e).rest = [] := by
  rw [isInteger, beq_iff_eq, Number.integer?_eq_self_iff]

/-- Whether a text has one of the four shapes of numbers. -/
def IsNumber (e : Text) : Prop := isFloat e ∨ isDouble e ∨ isLong e ∨ isInteger e

/-- The texts of the four shapes are those that are read as one number. -/
theorem isNumber_iff : IsNumber e ↔ ∃ p, Number.first? e = some (p, e) := by
  rw [Number.exists_first?_eq_self_iff, Number.rest_eq_suffix_iff]
  simp only [IsNumber, isFloat_iff, isDouble_iff, isLong_iff, isInteger_iff]
  generalize Numeral.read e = n
  by_cases hdigits : n.HasDigits
  · cases hfraction : n.fraction <;>
      simp [hdigits, or_and_right, exists_or, or_assoc, or_comm, or_left_comm]
  · simp [hdigits]

end Literal

end DeclLang
