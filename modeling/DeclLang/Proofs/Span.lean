import DeclLang.Text.Blank
import Mathlib.Data.List.TakeWhile

/-!
# Spans of characters

A text whose first characters pass a test and whose next one does not is cut at that place by
`takeWhile` and `dropWhile`, and no other cut has the same property; so is a list of any items.
Trimming is the case of blanks.
-/

namespace DeclLang

namespace Text

section

variable {α : Type} {p : α → Bool} {w s : List α}

/-- Nothing is taken when the first item fails the test. -/
theorem takeWhile_eq_nil (h : ∀ c ∈ s.head?, p c = false) : s.takeWhile p = [] := by
  cases s with
  | nil => rfl
  | cons c rest => simp [h c rfl]

/-- Nothing is dropped when the first item fails the test. -/
theorem dropWhile_eq_self (h : ∀ c ∈ s.head?, p c = false) : s.dropWhile p = s := by
  cases s with
  | nil => rfl
  | cons c rest => simp [h c rfl]

/-- A run of items that pass the test, before one that does not, is taken exactly. -/
theorem takeWhile_append_eq (hw : ∀ c ∈ w, p c) (hs : ∀ c ∈ s.head?, p c = false) :
    (w ++ s).takeWhile p = w := by
  rw [List.takeWhile_append_of_pos hw, takeWhile_eq_nil hs, List.append_nil]

/-- A run of items that pass the test, before one that does not, is dropped exactly. -/
theorem dropWhile_append_eq (hw : ∀ c ∈ w, p c) (hs : ∀ c ∈ s.head?, p c = false) :
    (w ++ s).dropWhile p = s := by
  rw [List.dropWhile_append_of_pos hw, dropWhile_eq_self hs]

end

/-- What is left after dropping starts with a character that fails the test. -/
theorem head?_dropWhile {p : Char → Bool} {s : Text} {c : Char}
    (h : c ∈ (s.dropWhile p).head?) : p c = false := by
  have := List.head?_dropWhile_not p s
  rwa [Option.mem_def.1 h] at this

/-- There is only one place in a text where a run of characters that pass the test ends. -/
theorem append_inj_of_span {p : Char → Bool} {w w' s s' : Text} (h : w ++ s = w' ++ s')
    (hw : ∀ c ∈ w, p c) (hs : ∀ c ∈ s.head?, p c = false) (hw' : ∀ c ∈ w', p c)
    (hs' : ∀ c ∈ s'.head?, p c = false) : w = w' ∧ s = s' := by
  have hrun : w = w' := by
    rw [← takeWhile_append_eq hw hs, h, takeWhile_append_eq hw' hs']
  subst hrun
  exact ⟨rfl, List.append_cancel_left h⟩

/-- What follows a run without blanks starts with a blank. -/
theorem takeWhile_isBlank_ne_nil {s : Text} (h : s.dropWhile (!isBlank ·) ≠ []) :
    (s.dropWhile (!isBlank ·)).takeWhile isBlank ≠ [] := by
  obtain ⟨c, rest, hc⟩ := List.exists_cons_of_ne_nil h
  have hblank : (!isBlank c) = false := head?_dropWhile (s := s) (by rw [hc]; rfl)
  rw [hc, List.takeWhile_cons_of_pos (by simpa using hblank)]
  exact List.cons_ne_nil _ _

/-- Blanks in front of a text that starts with none are trimmed. -/
theorem trimLeft_append_eq {w s : Text} (hw : ∀ c ∈ w, isBlank c)
    (hs : ∀ c ∈ s.head?, isBlank c = false) : trimLeft (w ++ s) = s :=
  dropWhile_append_eq hw hs

/-- Trimming the end of a text leaves a first part of it. -/
theorem trimRight_isPrefix (s : Text) : trimRight s <+: s := by
  rw [trimRight, ← List.reverse_suffix, List.reverse_reverse]
  exact List.dropWhile_suffix _

/-- A trimmed text starts with no blank. -/
theorem head?_trim {s : Text} : ∀ c ∈ (trim s).head?, isBlank c = false := by
  obtain ⟨t, ht⟩ := trimRight_isPrefix (trimLeft s)
  intro c (hc : (trimRight (trimLeft s)).head? = some c)
  have hfirst : c ∈ (trimLeft s).head? := by
    rw [← ht, List.head?_append, hc]
    rfl
  exact head?_dropWhile hfirst

end Text

end DeclLang
