import DeclLang.Proofs.StatementPattern
import Mathlib.Data.List.Infix

/-!
# Statements of a text

The statements of a text are its pieces between semicolons without outer blanks. A semicolon in a
text divides the statements into those before and those behind it, and blanks at the front of a
text belong to no statement. The statements lie in the text one behind the other.
-/

namespace DeclLang

namespace Text

/-- A text without blanks at its ends is trimmed. -/
theorem trim_eq_self {s : Text} (hhead : ∀ c ∈ s.head?, isBlank c = false)
    (hlast : ∀ c ∈ s.getLast?, isBlank c = false) : trim s = s := by
  have hreverse : ∀ c ∈ s.reverse.head?, isBlank c = false := by
    simpa [List.head?_reverse] using hlast
  rw [trim, trimLeft, dropWhile_eq_self hhead, trimRight, dropWhile_eq_self hreverse,
    List.reverse_reverse]

/-- A blank at the front is trimmed. -/
theorem trim_cons {c : Char} (hc : isBlank c) (s : Text) : trim (c :: s) = trim s := by
  rw [trim, trim, trimLeft, List.dropWhile_cons_of_pos hc, ← trimLeft]

/-- A blank at the end is trimmed. -/
theorem trim_concat {c : Char} (hc : isBlank c) (s : Text) : trim (s ++ [c]) = trim s := by
  have hright (t : Text) : trimRight (t ++ [c]) = trimRight t := by
    rw [trimRight, List.reverse_append, List.reverse_singleton, List.singleton_append,
      List.dropWhile_cons_of_pos hc, ← trimRight]
  rw [trim, trim, trimLeft, List.dropWhile_append, ← trimLeft]
  split
  · rename_i hnone
    rw [List.isEmpty_iff.1 hnone]
    simp [List.dropWhile_cons_of_pos hc]
  · exact hright _

/-- Trimming leaves a part of a text. -/
theorem trim_isInfix (s : Text) : trim s <:+: s :=
  (trimRight_isPrefix _).isInfix.trans (List.dropWhile_suffix _).isInfix

/-- Two texts are parts of a text, one behind the other. -/
def HoldsInOrder (s p q : Text) : Prop := ∃ a b, s = a ++ b ∧ p <:+: a ∧ q <:+: b

/-- Parts of two parts lie in the same order. -/
theorem HoldsInOrder.mono {s p q p' q' : Text} (h : HoldsInOrder s p q) (hp : p' <:+: p)
    (hq : q' <:+: q) : HoldsInOrder s p' q' := by
  obtain ⟨a, b, hs, hpa, hqb⟩ := h
  exact ⟨a, b, hs, hp.trans hpa, hq.trans hqb⟩

/-- A piece between separators is a part of the text. -/
theorem isInfix_intercalate {sep p : Text} {pieces : List Text} (h : p ∈ pieces) :
    p <:+: sep.intercalate pieces := by
  induction pieces with
  | nil => contradiction
  | cons first rest ih =>
    cases rest with
    | nil => simp [List.mem_singleton.1 h]
    | cons second rest =>
      rw [List.intercalate_cons_cons, List.append_assoc]
      rcases List.mem_cons.1 h with rfl | hlater
      · exact List.infix_append_left
      · exact (ih hlater).trans (List.infix_append_right.trans List.infix_append_right)

/-- Pieces between separators lie in the text in their order. -/
theorem pairwise_intercalate (sep : Text) (pieces : List Text) :
    pieces.Pairwise (HoldsInOrder (sep.intercalate pieces)) := by
  induction pieces with
  | nil => exact .nil
  | cons first rest ih =>
    cases rest with
    | nil => exact List.pairwise_singleton _ _
    | cons second rest =>
      rw [List.intercalate_cons_cons, List.pairwise_cons]
      constructor
      · intro later hlater
        refine ⟨first, sep ++ sep.intercalate (second :: rest), by simp, List.infix_rfl, ?_⟩
        exact (isInfix_intercalate hlater).trans List.infix_append_right
      · refine ih.imp ?_
        rintro p q ⟨a, b, hs, hp, hq⟩
        exact ⟨first ++ sep ++ a, b, by rw [hs]; simp, hp.trans List.infix_append_right, hq⟩

/-- No piece between separators holds one. -/
theorem notMem_of_mem_splitOn {sep : Char} {s p : Text} (h : p ∈ s.splitOn sep) : sep ∉ p := by
  induction s generalizing p with
  | nil => simp_all
  | cons c s ih =>
    rw [List.splitOn_cons_eq_if_modifyHead] at h
    split at h
    · rcases List.mem_cons.1 h with rfl | hrest
      · simp
      · exact ih hrest
    · rename_i hc
      obtain ⟨first, rest, hpieces⟩ := List.exists_cons_of_ne_nil (List.splitOn_ne_nil sep s)
      rw [hpieces] at h
      rcases List.mem_cons.1 h with rfl | hrest
      · have hfirst : sep ∉ first := ih (by rw [hpieces]; exact List.mem_cons_self)
        exact mt List.mem_cons.1 (not_or.2 ⟨fun heq => hc (by simp [heq]), hfirst⟩)
      · exact ih (by rw [hpieces]; exact List.mem_cons_of_mem _ hrest)

end Text

namespace Statement

/-- The statements of a text whose comments are gone. -/
def splitPlain (s : Text) : List Text := ((s.splitOn ';').map Text.trim).filter (· ≠ [])

/-- The statements of a source are those of the text without its comments. -/
theorem split_eq_splitPlain (source : Text) : split source = splitPlain (Comment.strip source) :=
  rfl

/-- A semicolon divides the statements. -/
theorem splitPlain_append (s t : Text) :
    splitPlain (s ++ ';' :: t) = splitPlain s ++ splitPlain t := by
  rw [splitPlain, List.splitOn_append_cons_self, List.map_append, List.filter_append]
  rfl

/-- A blank at the front belongs to no statement. -/
theorem splitPlain_cons {c : Char} (hc : Text.isBlank c) (s : Text) :
    splitPlain (c :: s) = splitPlain s := by
  have hne : c ≠ ';' := Text.ne_of_isBlank hc (by decide)
  obtain ⟨first, rest, hpieces⟩ := List.exists_cons_of_ne_nil (List.splitOn_ne_nil ';' s)
  rw [splitPlain, List.splitOn_cons_eq_if_modifyHead, if_neg (by simpa using hne), splitPlain,
    hpieces, List.modifyHead_cons, List.map_cons, Text.trim_cons hc, List.map_cons]

/-- A blank at the end belongs to no statement. -/
theorem splitPlain_concat {c : Char} (hc : Text.isBlank c) (s : Text) :
    splitPlain (s ++ [c]) = splitPlain s := by
  induction hlength : s.length using Nat.strong_induction_on generalizing s with
  | _ n ih =>
    by_cases hmem : ';' ∈ s
    · obtain ⟨first, rest, rfl, -⟩ := List.eq_append_cons_of_mem hmem
      have hshorter : rest.length < n := by
        rw [← hlength, List.length_append, List.length_cons]
        omega
      rw [List.append_assoc, List.cons_append, splitPlain_append, splitPlain_append,
        ih rest.length hshorter rest rfl]
    · have hne : ';' ≠ c := (Text.ne_of_isBlank hc (by decide)).symm
      have hmem' : ';' ∉ s ++ [c] := by simp [hmem, hne]
      rw [splitPlain, splitPlain, List.splitOn_eq_singleton hmem, List.splitOn_eq_singleton hmem',
        List.map_singleton, List.map_singleton, Text.trim_concat hc]

/-- A trimmed text without a semicolon is its only statement, unless it is empty. -/
theorem splitPlain_eq_singleton {s : Text} (hsemicolon : ';' ∉ s) (hne : s ≠ [])
    (htrim : Text.trim s = s) : splitPlain s = [s] := by
  simp [splitPlain, List.splitOn_eq_singleton hsemicolon, htrim, hne]

/-- A statement of a text is a part of it that has no semicolon and no blanks at its ends. -/
theorem of_mem_splitPlain {s statement : Text} (h : statement ∈ splitPlain s) :
    statement <:+: s ∧ ';' ∉ statement ∧ EndsSolid statement := by
  obtain ⟨hmem, -⟩ := List.mem_filter.1 h
  obtain ⟨piece, hpiece, rfl⟩ := List.mem_map.1 hmem
  have hinside : piece <:+: [';'].intercalate (s.splitOn ';') := Text.isInfix_intercalate hpiece
  rw [List.intercalate_splitOn] at hinside
  refine ⟨(Text.trim_isInfix piece).trans hinside, fun hsemicolon => ?_, endsSolid_trim piece⟩
  exact Text.notMem_of_mem_splitOn hpiece ((Text.trim_isInfix piece).subset hsemicolon)

/-- The statements of a text lie in it in their order. -/
theorem pairwise_splitPlain (s : Text) : (splitPlain s).Pairwise (Text.HoldsInOrder s) := by
  have hpieces := Text.pairwise_intercalate [';'] (s.splitOn ';')
  rw [List.intercalate_splitOn] at hpieces
  refine List.Pairwise.filter _ (List.pairwise_map.2 (hpieces.imp fun h => ?_))
  exact h.mono (Text.trim_isInfix _) (Text.trim_isInfix _)

end Statement

end DeclLang
