import DeclLang.Text.Blank
import DeclLang.Text.DecimalDigit
import DeclLang.Word

/-!
# Solid characters

Blanks separate tokens, quotes open literals and a slash opens a comment. Every other character is
solid. Numbers and words consist of solid characters only, which is why neither a comment nor a
literal can begin inside one of them.
-/

namespace DeclLang

namespace Text

/-- A character that is not blank and opens neither a literal nor a comment. -/
def IsSolid (c : Char) : Prop := isBlank c = false ∧ c ≠ '"' ∧ c ≠ '\'' ∧ c ≠ '/'

instance (c : Char) : Decidable (IsSolid c) := inferInstanceAs (Decidable (_ ∧ _))

/-- A character that is not blank and opens no comment. -/
def IsEdge (c : Char) : Prop := isBlank c = false ∧ c ≠ '/'

instance (c : Char) : Decidable (IsEdge c) := inferInstanceAs (Decidable (_ ∧ _))

/-- Solid characters are edges. -/
theorem IsSolid.isEdge {c : Char} (h : IsSolid c) : IsEdge c := ⟨h.1, h.2.2.2⟩

/-- A decimal digit lies in one of the runs of ten. -/
theorem exists_first_of_isDigit {c : Char} (h : isDigit c) :
    ∃ first ∈ digitZeros, first ≤ c.toNat ∧ c.toNat < first + 10 := by
  rw [isDigit, digitValue?, Option.isSome_map, List.find?_isSome] at h
  obtain ⟨first, hmem, hrange⟩ := h
  exact ⟨first, hmem, by simpa using hrange⟩

/-- A run of decimal digits has no blank in it. -/
theorem digitZeros_disjoint_blankRanges :
    ∀ first ∈ digitZeros, ∀ range ∈ blankRanges, range.2 < first ∨ first + 10 ≤ range.1 := by
  decide

/-- A blank lies in one of the ranges of White_Space. -/
theorem isBlank_iff {c : Char} :
    isBlank c ↔ ∃ range ∈ blankRanges, range.1 ≤ c.toNat ∧ c.toNat ≤ range.2 := by
  simp [isBlank, inRanges]

/-- No decimal digit is blank. -/
theorem isBlank_eq_false_of_isDigit {c : Char} (h : isDigit c) : isBlank c = false := by
  rw [Bool.eq_false_iff, ne_eq, isBlank_iff]
  rintro ⟨range, hrange, hlow, hhigh⟩
  obtain ⟨first, hfirst, hfrom, hto⟩ := exists_first_of_isDigit h
  have := digitZeros_disjoint_blankRanges first hfirst range hrange
  omega

/-- A test that blanks fail passes no blank. -/
theorem eq_false_of_isBlank {p : Char → Bool} (hp : ∀ c, p c → isBlank c = false) {c : Char}
    (hc : isBlank c) : p c = false := by
  cases hpass : p c with
  | false => rfl
  | true =>
    rw [hp c hpass] at hc
    contradiction

/-- A blank differs from any character that is none. -/
theorem ne_of_isBlank {c d : Char} (hc : isBlank c) (hd : isBlank d = false) : c ≠ d := by
  rintro rfl
  rw [hd] at hc
  contradiction

/-- Blanks are not solid. -/
theorem not_isSolid_of_isBlank {c : Char} (h : isBlank c) : ¬ IsSolid c := by
  intro hsolid
  rw [hsolid.1] at h
  contradiction

/-- A text that starts as another one does, or with a character that is not solid, or not at all.
Behind a token it cannot be taken for more of the token than the other text is. -/
def BreaksLike (t s : Text) : Prop := t.head? = s.head? ∨ ∀ c ∈ t.head?, ¬ IsSolid c

/-- A test that only solid characters pass and that fails in front of a text fails in front of one
that breaks like it. -/
theorem BreaksLike.eq_false {s t : Text} (h : t.BreaksLike s) {p : Char → Bool}
    (hp : ∀ c, p c → IsSolid c) (hs : ∀ c ∈ s.head?, p c = false) :
    ∀ c ∈ t.head?, p c = false := by
  rcases h with heq | hbreak
  · rwa [heq]
  · intro c hc
    rw [Bool.eq_false_iff]
    exact fun hpass => hbreak c hc (hp c hpass)

/-- Decimal digits are solid. -/
theorem isSolid_of_isDigit {c : Char} (h : isDigit c) : IsSolid c := by
  refine ⟨isBlank_eq_false_of_isDigit h, ?_, ?_, ?_⟩ <;> rintro rfl <;> revert h <;> decide

end Text

namespace Word

/-- The characters of words are ASCII characters. -/
theorem toNat_lt_of_isPart {c : Char} (h : isPart c) : c.toNat < 128 := by
  unfold isPart Char.isAlphanum Char.isAlpha Char.isUpper Char.isLower Char.isDigit at h
  simp only [Bool.or_eq_true, Bool.and_eq_true, decide_eq_true_eq, beq_iff_eq, ge_iff_le,
    UInt32.le_iff_toNat_le, Char.reduceVal, UInt32.reduceToNat, Char.toNat_val] at h
  rcases h with h | rfl
  · omega
  · decide

/-- A property of all ASCII word characters holds of every character of a word. -/
theorem forall_isPart {P : Char → Prop}
    (h : ∀ n < 128, isPart (Char.ofNat n) → P (Char.ofNat n)) {c : Char} (hc : isPart c) : P c := by
  have := h c.toNat (toNat_lt_of_isPart hc)
  rw [Char.ofNat_toNat] at this
  exact this hc

/-- What may start a word may continue one. -/
theorem isPart_of_isStart {c : Char} (h : isStart c) : isPart c := by
  simp only [isStart, isPart, Char.isAlphanum, Bool.or_eq_true] at h ⊢
  exact h.imp_left Or.inl

/-- No word starts with an ASCII digit. -/
theorem isDigit_eq_false_of_isStart {c : Char} (h : isStart c) : c.isDigit = false :=
  forall_isPart (P := fun c => isStart c → c.isDigit = false) (by decide) (isPart_of_isStart h) h

/-- Characters of words are solid. -/
theorem isSolid_of_isPart {c : Char} (h : isPart c) : Text.IsSolid c :=
  forall_isPart (by decide) h

/-- No blank continues a word. -/
theorem isPart_eq_false_of_isBlank {c : Char} (h : Text.isBlank c) : isPart c = false :=
  Text.eq_false_of_isBlank (fun _ hpart => (isSolid_of_isPart hpart).1) h

/-- There are two boolean literals. -/
theorem isBoolean_iff_eq {w : Text} :
    isBoolean w ↔ w = "true".toList ∨ w = "false".toList := by
  rw [isBoolean, Bool.or_eq_true, beq_iff_eq, beq_iff_eq]

/-- An identifier is a start of a word and goes on with parts of one. -/
theorem isIdentifier_iff {w : Text} :
    isIdentifier w ↔ ∃ c rest, w = c :: rest ∧ isStart c ∧ ∀ d ∈ rest, isPart d := by
  cases w with
  | nil => simp [isIdentifier]
  | cons c rest =>
    rw [isIdentifier, Bool.and_eq_true, List.all_eq_true]
    constructor
    · rintro ⟨hc, hrest⟩
      exact ⟨c, rest, rfl, hc, hrest⟩
    · rintro ⟨_, _, heq, hc, hrest⟩
      obtain ⟨rfl, rfl⟩ := List.cons.inj heq
      exact ⟨hc, hrest⟩

/-- Every character of an identifier may continue a word. -/
theorem isPart_of_isIdentifier {w : Text} (h : isIdentifier w) : ∀ c ∈ w, isPart c := by
  obtain ⟨first, rest, rfl, hfirst, hrest⟩ := isIdentifier_iff.1 h
  exact List.forall_mem_cons.2 ⟨isPart_of_isStart hfirst, hrest⟩

end Word

end DeclLang
