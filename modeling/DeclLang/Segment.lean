import DeclLang.Comment
import DeclLang.Quoted
import DeclLang.Text.Blank

/-!
# Segments

Before any token is read, a text is cut into segments: single blanks, comments, closed literals
and, one by one, all other characters. Cutting out closed literals first keeps the comment marks
inside them from counting, so these comments differ from those of `Comment.ranges` exactly where a
literal holds such a mark. Blanks and comments are trivia, and no token may start in trivia.
-/

namespace DeclLang

/-- What a segment consists of. -/
inductive Segment.Kind where
  | blank
  | comment
  | literal
  | plain
deriving DecidableEq, Repr

/-- A stretch of text of one kind. -/
structure Segment where
  kind : Segment.Kind
  text : Text
deriving DecidableEq, Repr

namespace Segment

/-- The segment at the front of a text, given by its first character and the others.

A quote that opens no closed literal is a segment by itself. -/
def front (c : Char) (rest : Text) : Segment :=
  if c = '"' ∨ c = '\'' then
    match Quoted.closing? c rest with
    | some tail => ⟨.literal, c :: tail⟩
    | none => ⟨.plain, [c]⟩
  else
    match Comment.front? (c :: rest) with
    | some comment => ⟨.comment, comment⟩
    | none => if Text.isBlank c then ⟨.blank, [c]⟩ else ⟨.plain, [c]⟩

/-- The first segment of a text is a front of it. -/
theorem front_isFront (c : Char) (rest : Text) : Text.IsFront (front c rest).text (c :: rest) := by
  unfold front
  split
  · split
    · rename_i h
      exact ⟨by simpa using Quoted.closing?_isPrefix h, by simp⟩
    · exact ⟨by simp, by simp⟩
  · split
    · rename_i h
      exact Comment.front?_isFront h
    · split <;> exact ⟨by simp, by simp⟩

/-- The segments of a text from left to right. -/
def split : Text → List Segment
  | [] => []
  | c :: rest =>
    let segment := front c rest
    segment :: split (rest.drop (segment.text.length - 1))
termination_by s => s.length
decreasing_by
  simp only [List.length_drop, List.length_cons]
  omega

/-- Splitting loses nothing. -/
theorem flatMap_text_split (s : Text) : (split s).flatMap (·.text) = s := by
  fun_induction split s with
  | case1 => rfl
  | case2 c rest segment ih =>
    obtain ⟨⟨t, ht⟩, hne⟩ := front_isFront c rest
    simp only [List.flatMap_cons, ih, segment]
    cases hw : (front c rest).text with
    | nil => exact absurd hw hne
    | cons a w =>
      rw [hw] at ht
      simp only [List.cons_append, List.cons.injEq] at ht
      obtain ⟨rfl, rfl⟩ := ht
      simp

/-- Whether a segment separates tokens instead of holding any. -/
def isTrivia (segment : Segment) : Bool :=
  match segment.kind with
  | .blank | .comment => true
  | .literal | .plain => false

/-- The byte ranges of the segments of a kind when the first one starts at the given offset. -/
def rangesFrom (kind : Kind) (offset : Nat) : List Segment → List (Nat × Nat)
  | [] => []
  | segment :: rest =>
    let stop := offset + Text.byteSize segment.text
    if segment.kind = kind then (offset, stop) :: rangesFrom kind stop rest
    else rangesFrom kind stop rest

/-- One flag per character of a text, set where the character is trivia. -/
def triviaFlags (source : Text) : List Bool :=
  (split source).flatMap fun segment => List.replicate segment.text.length segment.isTrivia

/-- One flag per byte of a text, set where the byte is trivia. -/
def triviaBytes (source : Text) : List Bool :=
  (split source).flatMap fun segment =>
    List.replicate (Text.byteSize segment.text) segment.isTrivia

end Segment

end DeclLang
