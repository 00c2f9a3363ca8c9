import DeclLang.Text.DecimalDigit

/-!
# Numerals

Every numeric literal starts with an optional minus sign, digits, and optionally a point with more
digits, in that order and each as long as possible. `Numeral.read` cuts this front off once, and
the four kinds of number differ only in which parts they need and which suffix letter they take.
Digits of every script count.
-/

namespace DeclLang

/-- The front of a text cut into the parts of a number. A text without a number at its front is cut
too, with no digits on either side of the point. -/
structure Numeral where
  sign : Text
  whole : Text
  /-- The digits after the point, if there is a point. -/
  fraction : Option Text
  rest : Text
deriving DecidableEq, Repr

namespace Numeral

/-- The parts after the sign. -/
def readUnsigned (sign s : Text) : Numeral :=
  match s.dropWhile Text.isDigit with
  | '.' :: tail =>
    ⟨sign, s.takeWhile Text.isDigit, some (tail.takeWhile Text.isDigit),
      tail.dropWhile Text.isDigit⟩
  | tail => ⟨sign, s.takeWhile Text.isDigit, none, tail⟩

/-- Cut the front of a text into the parts of a number, each as long as possible. -/
def read : Text → Numeral
  | '-' :: rest => readUnsigned ['-'] rest
  | s => readUnsigned [] s

/-- The text of the parts before the rest. -/
def body (n : Numeral) : Text :=
  n.sign ++ n.whole ++ (n.fraction.map ('.' :: ·)).getD []

/-- Cutting loses nothing. -/
theorem body_read_append_rest (s : Text) : (read s).body ++ (read s).rest = s := by
  have key (sign t : Text) :
      (readUnsigned sign t).body ++ (readUnsigned sign t).rest = sign ++ t := by
    unfold readUnsigned
    split
    · rename_i tail htail
      have := List.takeWhile_append_dropWhile (p := Text.isDigit) (l := t)
      rw [htail] at this
      simp [body, List.takeWhile_append_dropWhile, this]
    · simp [body, List.takeWhile_append_dropWhile]
  unfold read
  split
  · exact key _ _
  · exact key _ _

/-- A number without its suffix letter: digits with a point among or beside them, or bare digits. -/
def decimal? (n : Numeral) : Option Text :=
  match n.fraction with
  | some digits => if n.whole = [] ∧ digits = [] then none else some n.body
  | none => if n.whole = [] then none else some n.body

/-- The parts before the rest are at the front of the text. -/
theorem body_isPrefix (s : Text) : (read s).body <+: s := ⟨_, body_read_append_rest s⟩

/-- Sign and digits are at the front of the text. -/
theorem sign_append_whole_isPrefix (s : Text) : (read s).sign ++ (read s).whole <+: s :=
  (List.prefix_append _ _).trans (body_isPrefix s)

/-- A number without its suffix letter is all that was cut off, and not nothing. -/
theorem decimal?_eq_some {n : Numeral} {w : Text} (h : n.decimal? = some w) :
    w = n.body ∧ n.body ≠ [] := by
  unfold decimal? at h
  split at h
  · rename_i digits hfraction
    simp only [Option.ite_none_left_eq_some, Option.some.injEq] at h
    exact ⟨h.2.symm, by simp [body, hfraction]⟩
  · rename_i hfraction
    simp only [Option.ite_none_left_eq_some, Option.some.injEq] at h
    exact ⟨h.2.symm, by simp [body, h.1]⟩

end Numeral

namespace Number

/-- The number with a point at the front of a text. -/
def pointed? (s : Text) : Option Text :=
  let n := Numeral.read s
  if n.fraction.isSome then n.decimal? else none

/-- The number with or without a point, closed by one of the given suffix letters, at the front of
a text. -/
def suffixed? (letters : List Char) (s : Text) : Option Text :=
  let n := Numeral.read s
  match n.rest with
  | [] => none
  | c :: _ => if c ∈ letters then n.decimal?.map (· ++ [c]) else none

/-- The digits without a point at the front of a text, whatever follows them. -/
def integer? (s : Text) : Option Text :=
  let n := Numeral.read s
  if n.whole = [] then none else some (n.sign ++ n.whole)

/-- The digits directly followed by one of the given suffix letters at the front of a text. -/
def suffixedInteger? (letters : List Char) (s : Text) : Option Text :=
  if (Numeral.read s).fraction.isSome then none else suffixed? letters s

/-- A number with a point is a front of the text. -/
theorem pointed?_isFront {s w : Text} (h : pointed? s = some w) : Text.IsFront w s := by
  unfold pointed? at h
  simp only [Option.ite_none_right_eq_some] at h
  obtain ⟨rfl, hne⟩ := Numeral.decimal?_eq_some h.2
  exact ⟨Numeral.body_isPrefix s, hne⟩

/-- A number with its suffix letter is a front of the text. -/
theorem suffixed?_isFront {letters : List Char} {s w : Text} (h : suffixed? letters s = some w) :
    Text.IsFront w s := by
  unfold suffixed? at h
  simp only at h
  split at h
  · simp at h
  · rename_i c rest hrest
    simp only [Option.ite_none_right_eq_some, Option.map_eq_some_iff] at h
    obtain ⟨-, u, hu, rfl⟩ := h
    obtain ⟨rfl, -⟩ := Numeral.decimal?_eq_some hu
    refine ⟨⟨rest, ?_⟩, by simp⟩
    simpa [hrest] using Numeral.body_read_append_rest s

/-- Digits without a point are a front of the text. -/
theorem integer?_isFront {s w : Text} (h : integer? s = some w) : Text.IsFront w s := by
  unfold integer? at h
  simp only [Option.ite_none_left_eq_some, Option.some.injEq] at h
  obtain ⟨hne, rfl⟩ := h
  exact ⟨Numeral.sign_append_whole_isPrefix s, by simp [hne]⟩

/-- Digits with their suffix letter are a front of the text. -/
theorem suffixedInteger?_isFront {letters : List Char} {s w : Text}
    (h : suffixedInteger? letters s = some w) : Text.IsFront w s := by
  unfold suffixedInteger? at h
  simp only [Option.ite_none_left_eq_some] at h
  exact suffixed?_isFront h.2

/-- A value, if a signed word of 128 bits holds it. -/
def held? (value : Int) : Option Int :=
  if -170141183460469231731687303715884105728 ≤ value ∧
      value ≤ 170141183460469231731687303715884105727 then some value
  else none

/-- The value of digits and one more behind them, counted downwards after a minus sign. There is
none when the digit is not an ASCII one or when a word cannot hold what is computed. -/
def nextValue? (negative : Bool) (value : Int) (c : Char) : Option Int :=
  if c.isDigit then
    let digit : Int := ↑(c.toNat - '0'.toNat)
    (held? (10 * value)).bind fun shifted =>
      held? (if negative then shifted - digit else shifted + digit)
  else
    none

/-- The value of a minus sign and ASCII digits, read digit by digit into a signed word of 128 bits;
none when that does not hold it or when another script's digits are among them. -/
def value? (s : Text) : Option Int :=
  let n := Numeral.read s
  n.whole.foldlM (nextValue? (n.sign ≠ [])) 0

end Number

end DeclLang
