import DeclLang.Proofs.Comment
import DeclLang.Proofs.Lexeme

/-!
# Readings

A reading cuts a text into blanks, comments and lexemes, each of them found at the front of all that
is left. Every text has a reading that goes on until nothing is left or no token can be read, and
both forms of the lexical phase are determined by it: the tokens are the lexemes with their
offsets, and an error lies where the reading gets stuck.
-/

namespace DeclLang

namespace Token

variable {E : Type}

/-- Tokens put in front of the ones found later, unless that fails. -/
def prepend (tokens : List Token) (later : Except E (List Token)) : Except E (List Token) :=
  later.map (tokens ++ ·)

@[simp] theorem prepend_ok (tokens later : List Token) :
    prepend tokens (.ok later : Except E (List Token)) = .ok (tokens ++ later) := rfl

@[simp] theorem prepend_error (tokens : List Token) (e : E) :
    prepend tokens (.error e) = .error e := rfl

@[simp] theorem prepend_nil (later : Except E (List Token)) : prepend [] later = later := by
  cases later <;> rfl

/-- Putting tokens in front twice is putting both in front. -/
theorem prepend_prepend (first second : List Token) (later : Except E (List Token)) :
    prepend first (prepend second later) = prepend (first ++ second) later := by
  cases later with
  | error e => rfl
  | ok tokens => simp

end Token

/-- A text that breaks a line like another one breaks like it. -/
theorem Text.BreaksLineLike.breaksLike {s t : Text} (h : t.BreaksLineLike s) : t.BreaksLike s := by
  apply h.imp_right
  intro hbreak c hc
  rw [hbreak c hc]
  decide

/-- A stretch of text that is read as a whole. -/
inductive Stretch where
  | blank (c : Char)
  | comment (comment : Text)
  | token (kind : Token.Kind) (lexeme : Text)
deriving DecidableEq, Repr

namespace Stretch

/-- The text of a stretch. -/
def text : Stretch → Text
  | blank c => [c]
  | comment w => w
  | token _ w => w

/-- Whether a stretch separates tokens. -/
def isTrivia : Stretch → Bool
  | blank _ | comment _ => true
  | token _ _ => false

/-- The token of a stretch at a byte offset, if it is one. -/
def tokensAt (offset : Nat) : Stretch → List Token
  | blank _ | comment _ => []
  | token kind w => [⟨kind, w, offset, offset + Text.byteSize w⟩]

/-- A stretch is found in front of a rest. -/
def IsRead (rest : Text) : Stretch → Prop
  | blank c => Text.isBlank c
  | comment w => Comment.front? (w ++ rest) = some w
  | token kind w => Token.IsRead kind w rest

/-- A stretch is found again when the text behind it changes to one that breaks a line like it. -/
theorem IsRead.of_breaksLineLike {x : Stretch} {s t : Text} (h : x.IsRead s)
    (ht : t.BreaksLineLike s) : x.IsRead t := by
  cases x with
  | blank c => exact h
  | comment w => exact Comment.front?_of_breaksLineLike h ht
  | token kind w => exact Token.IsRead.of_breaksLike h ht.breaksLike

/-- A stretch is not empty. -/
theorem IsRead.ne_nil {x : Stretch} {rest : Text} (h : x.IsRead rest) : x.text ≠ [] := by
  cases x with
  | blank c => simp [text]
  | comment w => exact (Comment.front?_isFront h).2
  | token kind w => exact (Token.IsRead.form h).ne_nil

end Stretch

/-- The stretches of a text from left to right. -/
abbrev Reading := List Stretch

namespace Reading

/-- The text of a reading. -/
def text (r : Reading) : Text := r.flatMap Stretch.text

@[simp] theorem text_nil : text [] = [] := rfl

@[simp] theorem text_cons (x : Stretch) (r : Reading) : text (x :: r) = x.text ++ text r := rfl

@[simp] theorem text_append (r r' : Reading) : text (r ++ r') = text r ++ text r' :=
  List.flatMap_append

/-- Each stretch is found in front of the later ones and a rest. -/
def IsReadBefore (rest : Text) : Reading → Prop
  | [] => True
  | x :: r => x.IsRead (text r ++ rest) ∧ IsReadBefore rest r

/-- A reading stays one when the text behind it changes to one that breaks a line like it. -/
theorem IsReadBefore.of_breaksLineLike {r : Reading} {s t : Text} (hr : r.IsReadBefore s)
    (ht : t.BreaksLineLike s) : r.IsReadBefore t := by
  induction r with
  | nil => trivial
  | cons x r ih => exact ⟨hr.1.of_breaksLineLike (ht.append (text r)), ih hr.2⟩

/-- The tokens of a reading that starts at a byte offset. -/
def tokensFrom (offset : Nat) : Reading → List Token
  | [] => []
  | x :: r => x.tokensAt offset ++ tokensFrom (offset + Text.byteSize x.text) r

/-- No stretch is found at the front of a text, for the given cause. -/
structure IsStuck (s : Text) (cause : LexicalError.Cause) : Prop where
  ne_nil : s ≠ []
  blank : ∀ c ∈ s.head?, Text.isBlank c = false
  comment : Comment.front? s = none
  token : ∀ offset, Token.read offset s = .error cause

/-- The front of a text that is not empty is a stretch, or the text is stuck. -/
theorem exists_stretch (s : Text) (hs : s ≠ []) :
    (∃ x rest, s = Stretch.text x ++ rest ∧ x.IsRead rest) ∨ ∃ cause, IsStuck s cause := by
  obtain ⟨c, rest, rfl⟩ := List.exists_cons_of_ne_nil hs
  by_cases hblank : Text.isBlank c
  · exact .inl ⟨.blank c, rest, rfl, hblank⟩
  · cases hcomment : Comment.front? (c :: rest) with
    | some w =>
      obtain ⟨⟨rest', hrest⟩, -⟩ := Comment.front?_isFront hcomment
      exact .inl ⟨.comment w, rest', hrest.symm, by rw [Stretch.IsRead, hrest, hcomment]⟩
    | none =>
      cases hread : Token.read 0 (c :: rest) with
      | ok t =>
        obtain ⟨rest', hrest, hlexeme, -⟩ := Token.read_eq_ok_iff.1 hread
        exact .inl ⟨.token t.kind t.lexeme, rest', hrest, hlexeme⟩
      | error cause =>
        exact .inr ⟨cause, hs, by simpa using hblank, hcomment, Token.read_eq_error hread⟩

/-- Every text has a reading that ends with the text or gets stuck. -/
theorem exists_reading (s : Text) :
    ∃ r rest, s = text r ++ rest ∧ IsReadBefore rest r ∧
      (rest = [] ∨ ∃ cause, IsStuck rest cause) := by
  induction hlength : s.length using Nat.strong_induction_on generalizing s with
  | _ n ih =>
    by_cases hs : s = []
    · exact ⟨[], [], by simp [hs], trivial, .inl rfl⟩
    · rcases exists_stretch s hs with ⟨x, rest, rfl, hx⟩ | hstuck
      · have hshorter : rest.length < n := by
          have := List.length_pos_iff.2 hx.ne_nil
          rw [← hlength, List.length_append]
          omega
        obtain ⟨r, rest', rfl, hr, hend⟩ := ih rest.length hshorter rest rfl
        exact ⟨x :: r, rest', by simp, ⟨hx, hr⟩, hend⟩
      · exact ⟨[], s, rfl, trivial, .inr hstuck⟩

/-- A walk goes over a stretch and keeps its token. -/
theorem walk_stretch {x : Stretch} {rest : Text} (hx : x.IsRead rest) (offset : Nat) :
    Token.walk offset (x.text ++ rest) =
      Token.prepend (x.tokensAt offset) (Token.walk (offset + Text.byteSize x.text) rest) := by
  cases x with
  | blank c =>
    have hblank : Text.isBlank c := hx
    simp [Stretch.text, Stretch.tokensAt, Token.walk, hblank]
  | comment w =>
    obtain ⟨w, rfl⟩ := List.head?_eq_some_iff.1 (Comment.head?_of_front? hx)
    have hcomment : Comment.front? ('/' :: (w ++ rest)) = some ('/' :: w) := hx
    simp only [Stretch.text, Stretch.tokensAt, List.cons_append, Token.prepend_nil]
    rw [Token.walk, if_neg (by decide), hcomment]
    simp
  | token kind w =>
    have hform := Token.IsRead.form hx
    obtain ⟨c, w, rfl⟩ := List.exists_cons_of_ne_nil hform.ne_nil
    obtain ⟨hblank, hslash⟩ := hform.isEdge (c := c) (.inl rfl)
    have hcomment : Comment.front? (c :: (w ++ rest)) = none :=
      Comment.front?_eq_none (by simpa using hslash)
    have hread : Token.read offset (c :: (w ++ rest)) =
        .ok ⟨kind, c :: w, offset, offset + Text.byteSize (c :: w)⟩ :=
      Token.read_eq_ok_iff.2 ⟨rest, rfl, hx, rfl⟩
    simp only [Stretch.text, Stretch.tokensAt, List.cons_append]
    rw [Token.walk, hblank, if_neg (by decide), hcomment]
    simp [hread, Token.prepend]

/-- A walk goes over a reading and keeps its tokens. -/
theorem walk_text_append {r : Reading} {rest : Text} (hr : r.IsReadBefore rest) (offset : Nat) :
    Token.walk offset (r.text ++ rest) =
      Token.prepend (r.tokensFrom offset) (Token.walk (offset + Text.byteSize r.text) rest) := by
  induction r generalizing offset with
  | nil => simp [tokensFrom]
  | cons x r ih =>
    rw [text_cons, List.append_assoc, walk_stretch hr.1, ih hr.2, Token.prepend_prepend,
      Text.byteSize_append, Nat.add_assoc, tokensFrom]

/-- A walk ends where it gets stuck. -/
theorem walk_of_isStuck {s : Text} {cause : LexicalError.Cause} (h : IsStuck s cause)
    (offset : Nat) : Token.walk offset s = .error (cause, offset) := by
  obtain ⟨c, rest, rfl⟩ := List.exists_cons_of_ne_nil h.ne_nil
  rw [Token.walk, h.blank c rfl, if_neg (by decide), h.comment]
  simp [h.token offset]

end Reading

end DeclLang
