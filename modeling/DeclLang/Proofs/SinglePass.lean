import DeclLang.Proofs.Reading

/-!
# Marking first or reading in one pass

The lexical phase marks trivia by segments, which know only quotes, comments and blanks, and reads
tokens afterwards by productions. Along a reading both agree: every blank and every comment is a
segment of trivia, and a lexeme is cut into segments without trivia that end where it ends. The
two may disagree behind the place where a reading gets stuck, but nothing is read there.
-/

namespace DeclLang

namespace Segment

/-- Solid characters are segments by themselves. -/
theorem split_solid {w : Text} (h : ∀ c ∈ w, Text.IsSolid c) (rest : Text) :
    split (w ++ rest) = w.map (fun c => ⟨.plain, [c]⟩) ++ split rest := by
  induction w with
  | nil => rfl
  | cons c w ih =>
    obtain ⟨⟨hblank, hstring, hchar, hslash⟩, hw⟩ := List.forall_mem_cons.1 h
    have hcomment : Comment.front? (c :: (w ++ rest)) = none :=
      Comment.front?_eq_none (by simpa using hslash)
    have hfront : front c (w ++ rest) = ⟨.plain, [c]⟩ := by
      simp [front, hstring, hchar, hcomment, hblank]
    rw [List.cons_append, split, hfront]
    simp [ih hw]

/-- A closed literal is one segment. -/
theorem split_literal {quote : Char} {tail rest : Text} (hquote : quote = '"' ∨ quote = '\'')
    (h : Quoted.closing? quote (tail ++ rest) = some tail) :
    split (quote :: (tail ++ rest)) = ⟨.literal, quote :: tail⟩ :: split rest := by
  rw [split, front, if_pos hquote, h]
  simp

/-- A blank is one segment. -/
theorem split_blank {c : Char} (h : Text.isBlank c) (rest : Text) :
    split (c :: rest) = ⟨.blank, [c]⟩ :: split rest := by
  have hstring : c ≠ '"' := Text.ne_of_isBlank h (by decide)
  have hchar : c ≠ '\'' := Text.ne_of_isBlank h (by decide)
  have hslash : c ≠ '/' := Text.ne_of_isBlank h (by decide)
  have hcomment : Comment.front? (c :: rest) = none :=
    Comment.front?_eq_none (by simpa using hslash)
  have hfront : front c rest = ⟨.blank, [c]⟩ := by
    simp [front, hstring, hchar, hcomment, h]
  rw [split, hfront]
  rfl

/-- Where neither a blank nor a comment is found the first segment is no trivia. -/
theorem isTrivia_front {c : Char} {rest : Text} (hblank : Text.isBlank c = false)
    (hcomment : Comment.front? (c :: rest) = none) : (front c rest).isTrivia = false := by
  unfold front
  split
  · split <;> rfl
  · rw [hcomment, hblank]
    rfl

/-- A comment is one segment. -/
theorem split_comment {w rest : Text} (h : Comment.front? (w ++ rest) = some w) :
    split (w ++ rest) = ⟨.comment, w⟩ :: split rest := by
  obtain ⟨w, rfl⟩ := List.head?_eq_some_iff.1 (Comment.head?_of_front? h)
  have hfront : front '/' (w ++ rest) = ⟨.comment, '/' :: w⟩ := by
    rw [List.cons_append] at h
    simp [front, h]
  rw [List.cons_append, split, hfront]
  simp

end Segment

namespace Stretch

/-- The segments of a stretch. -/
def segments : Stretch → List Segment
  | blank c => [⟨.blank, [c]⟩]
  | comment w => [⟨.comment, w⟩]
  | token kind w =>
    if kind = .string ∨ kind = .char then [⟨.literal, w⟩] else w.map fun c => ⟨.plain, [c]⟩

/-- The segments of a stretch make up its text. -/
theorem flatMap_text_segments (x : Stretch) : x.segments.flatMap Segment.text = x.text := by
  cases x with
  | blank c => rfl
  | comment w => simp [segments, text]
  | token kind w =>
    simp only [segments, text]
    split
    · simp
    · simp [List.flatMap_map]

/-- The segments of a stretch are trivia just when it is. -/
theorem isTrivia_of_mem_segments {x : Stretch} {y : Segment} (h : y ∈ x.segments) :
    y.isTrivia = x.isTrivia := by
  cases x with
  | blank c | comment w =>
    rw [List.mem_singleton.1 h]
    rfl
  | token kind w =>
    simp only [segments] at h
    split at h
    · rw [List.mem_singleton.1 h]
      rfl
    · obtain ⟨c, -, rfl⟩ := List.mem_map.1 h
      rfl

/-- The segments of a text start with those of the stretch at its front. -/
theorem split_text_append {x : Stretch} {rest : Text} (hx : x.IsRead rest) :
    Segment.split (x.text ++ rest) = x.segments ++ Segment.split rest := by
  cases x with
  | blank c => exact Segment.split_blank hx rest
  | comment w => exact Segment.split_comment hx
  | token kind w =>
    have hform := Token.IsRead.form hx
    by_cases hkind : kind = .string ∨ kind = .char
    · rw [segments, if_pos hkind]
      cases hform with
      | @literal _ quote tail hquote htail =>
        have hquote' : quote = '"' ∨ quote = '\'' := hquote.imp And.right And.right
        have hslash : quote ≠ '\\' := by rcases hquote' with rfl | rfl <;> decide
        have hnewline : quote ≠ '\n' := by rcases hquote' with rfl | rfl <;> decide
        exact Segment.split_literal hquote'
          (Quoted.closing?_of_tail? hslash hnewline (Quoted.tail?_append hslash htail rest))
      | number | operator | punctuation => simp at hkind
      | word => exact absurd hkind (not_or.2 (Word.kind_ne_literal _))
    · rw [segments, if_neg hkind]
      exact Segment.split_solid (hform.isSolid (hkind ∘ .inl) (hkind ∘ .inr)) rest

/-- Marks for the segments of a stretch are marks for its text, whatever unit they count. -/
theorem flatMap_replicate_segments (size : Text → Nat) (hnil : size [] = 0)
    (happend : ∀ a b, size (a ++ b) = size a + size b) (x : Stretch) :
    x.segments.flatMap (fun y => List.replicate (size y.text) y.isTrivia) =
      List.replicate (size x.text) x.isTrivia := by
  rw [← flatMap_text_segments]
  have hkind : ∀ y ∈ x.segments, y.isTrivia = x.isTrivia := fun y => isTrivia_of_mem_segments
  generalize x.segments = segments at *
  induction segments with
  | nil => simp [hnil]
  | cons y segments ih =>
    obtain ⟨hy, hrest⟩ := List.forall_mem_cons.1 hkind
    rw [List.flatMap_cons, List.flatMap_cons, ih hrest, happend, hy,
      List.replicate_append_replicate]

/-- Each character of a stretch is marked just when it is trivia. -/
theorem triviaFlags_text_append {x : Stretch} {rest : Text} (hx : x.IsRead rest) :
    Segment.triviaFlags (x.text ++ rest) =
      List.replicate x.text.length x.isTrivia ++ Segment.triviaFlags rest := by
  rw [Segment.triviaFlags, split_text_append hx, List.flatMap_append,
    flatMap_replicate_segments List.length rfl (fun _ _ => List.length_append)]
  rfl

/-- Each byte of a stretch is marked just when it is trivia. -/
theorem triviaBytes_text_append {x : Stretch} {rest : Text} (hx : x.IsRead rest) :
    Segment.triviaBytes (x.text ++ rest) =
      List.replicate (Text.byteSize x.text) x.isTrivia ++ Segment.triviaBytes rest := by
  rw [Segment.triviaBytes, split_text_append hx, List.flatMap_append,
    flatMap_replicate_segments Text.byteSize Text.byteSize_nil Text.byteSize_append]
  rfl

end Stretch

namespace Token

/-- A scan goes over characters that are marked. -/
theorem scan_replicate_true (w rest : Text) (flags : List Bool) (offset : Nat) :
    scan offset (w ++ rest) (List.replicate w.length true ++ flags) =
      scan (offset + Text.byteSize w) rest flags := by
  induction w generalizing offset with
  | nil => simp
  | cons c w ih =>
    rw [List.length_cons, List.replicate_succ, List.cons_append, List.cons_append, scan, ih,
      Text.byteSize_cons, Nat.add_assoc]

/-- A scan reads a token at a character that is not marked. -/
theorem scan_token {c : Char} {rest : Text} {flags : List Bool} {offset : Nat} {t : Token}
    (h : read offset (c :: rest) = .ok t) (hflags : flags.head? ≠ some true) :
    scan offset (c :: rest) flags =
      prepend [t] (scan t.stop (rest.drop (t.lexeme.length - 1)) (flags.drop t.lexeme.length)) := by
  have hmarked : ∀ flags', flags ≠ true :: flags' := by
    rintro flags' rfl
    exact hflags rfl
  rw [scan.eq_3 _ _ _ _ hmarked, h]
  rfl

/-- A scan ends at a character that is not marked where no token can be read. -/
theorem scan_error {c : Char} {rest : Text} {flags : List Bool} {offset : Nat}
    {cause : LexicalError.Cause} (h : read offset (c :: rest) = .error cause)
    (hflags : flags.head? ≠ some true) :
    scan offset (c :: rest) flags = .error (cause, offset) := by
  have hmarked : ∀ flags', flags ≠ true :: flags' := by
    rintro flags' rfl
    exact hflags rfl
  rw [scan.eq_3 _ _ _ _ hmarked, h]

end Token

namespace Reading

/-- One flag per byte of a reading, set where the byte is trivia. -/
def marks (r : Reading) : List Bool :=
  r.flatMap fun x => List.replicate (Text.byteSize x.text) x.isTrivia

@[simp] theorem marks_cons (x : Stretch) (r : Reading) :
    marks (x :: r) = List.replicate (Text.byteSize x.text) x.isTrivia ++ marks r := rfl

/-- There are as many marks as bytes. -/
theorem length_marks (r : Reading) : (marks r).length = Text.byteSize r.text := by
  induction r with
  | nil => rfl
  | cons x r ih =>
    rw [marks_cons, List.length_append, List.length_replicate, ih, text_cons, Text.byteSize_append]

/-- The marked bytes of a text start with those of its reading. -/
theorem triviaBytes_text_append {r : Reading} {rest : Text} (hr : r.IsReadBefore rest) :
    Segment.triviaBytes (r.text ++ rest) = marks r ++ Segment.triviaBytes rest := by
  induction r with
  | nil => rfl
  | cons x r ih =>
    rw [text_cons, List.append_assoc, Stretch.triviaBytes_text_append hr.1, ih hr.2, marks_cons,
      List.append_assoc]

/-- A scan goes over a stretch and keeps its token. -/
theorem scan_stretch {x : Stretch} {rest : Text} (hx : x.IsRead rest) (offset : Nat) :
    Token.scan offset (x.text ++ rest) (Segment.triviaFlags (x.text ++ rest)) =
      Token.prepend (x.tokensAt offset)
        (Token.scan (offset + Text.byteSize x.text) rest (Segment.triviaFlags rest)) := by
  rw [Stretch.triviaFlags_text_append hx]
  cases x with
  | blank c =>
    rw [Stretch.tokensAt, Token.prepend_nil]
    exact Token.scan_replicate_true [c] rest _ offset
  | comment w =>
    rw [Stretch.tokensAt, Token.prepend_nil]
    exact Token.scan_replicate_true w rest _ offset
  | token kind w =>
    obtain ⟨c, w, rfl⟩ := List.exists_cons_of_ne_nil (Token.IsRead.form hx).ne_nil
    have hread : Token.read offset (c :: (w ++ rest)) =
        .ok ⟨kind, c :: w, offset, offset + Text.byteSize (c :: w)⟩ :=
      Token.read_eq_ok_iff.2 ⟨rest, rfl, hx, rfl⟩
    simp only [Stretch.text, Stretch.tokensAt, Stretch.isTrivia, List.cons_append]
    rw [Token.scan_token hread (by simp [List.replicate_succ])]
    simp

/-- A scan goes over a reading and keeps its tokens. -/
theorem scan_text_append {r : Reading} {rest : Text} (hr : r.IsReadBefore rest) (offset : Nat) :
    Token.scan offset (r.text ++ rest) (Segment.triviaFlags (r.text ++ rest)) =
      Token.prepend (r.tokensFrom offset)
        (Token.scan (offset + Text.byteSize r.text) rest (Segment.triviaFlags rest)) := by
  induction r generalizing offset with
  | nil => simp [tokensFrom]
  | cons x r ih =>
    rw [text_cons, List.append_assoc, scan_stretch hr.1, ih hr.2, Token.prepend_prepend,
      Text.byteSize_append, Nat.add_assoc, tokensFrom]

/-- Where a reading gets stuck the text is no trivia. -/
theorem IsStuck.split_eq {s : Text} {cause : LexicalError.Cause} (h : IsStuck s cause) :
    ∃ y segments, Segment.split s = y :: segments ∧ y.isTrivia = false ∧ y.text ≠ [] := by
  obtain ⟨c, rest, rfl⟩ := List.exists_cons_of_ne_nil h.ne_nil
  refine ⟨Segment.front c rest, _, by rw [Segment.split], ?_, (Segment.front_isFront c rest).2⟩
  exact Segment.isTrivia_front (h.blank c rfl) h.comment

/-- A scan ends where it gets stuck. -/
theorem scan_of_isStuck {s : Text} {cause : LexicalError.Cause} (h : IsStuck s cause)
    (offset : Nat) : Token.scan offset s (Segment.triviaFlags s) = .error (cause, offset) := by
  obtain ⟨y, segments, hsplit, htrivia, hy⟩ := h.split_eq
  obtain ⟨d, u, hu⟩ := List.exists_cons_of_ne_nil hy
  obtain ⟨c, rest, rfl⟩ := List.exists_cons_of_ne_nil h.ne_nil
  apply Token.scan_error (h.token offset)
  simp [Segment.triviaFlags, hsplit, htrivia, hu, List.replicate_succ]

/-- The tokens of a text are those of its reading. -/
theorem lex_text {r : Reading} (hr : r.IsReadBefore []) : lex r.text = .ok (r.tokensFrom 0) := by
  have hscan := scan_text_append hr 0
  rw [List.append_nil] at hscan
  simp [lex, hscan, Token.scan, Except.mapError]

end Reading

/-- A text has tokens exactly when it can be read to its end. -/
theorem lex_eq_ok_iff {source : Text} {tokens : List Token} :
    lex source = .ok tokens ↔
      ∃ r : Reading, r.text = source ∧ r.IsReadBefore [] ∧ r.tokensFrom 0 = tokens := by
  constructor
  · intro h
    obtain ⟨r, rest, rfl, hr, rfl | ⟨cause, hstuck⟩⟩ := Reading.exists_reading source
    · rw [List.append_nil, Reading.lex_text hr] at h
      cases h
      exact ⟨r, by simp, hr, rfl⟩
    · rw [lex, Reading.scan_text_append hr, Reading.scan_of_isStuck hstuck] at h
      contradiction
  · rintro ⟨r, rfl, hr, rfl⟩
    exact Reading.lex_text hr

/-- Marking trivia first and reading tokens afterwards gives the tokens, or the error, of a single
pass. -/
theorem lex_eq_lexOnePass (source : Text) : lex source = lexOnePass source := by
  obtain ⟨r, rest, rfl, hr, hend⟩ := Reading.exists_reading source
  rw [lex, lexOnePass, Reading.scan_text_append hr, Reading.walk_text_append hr]
  rcases hend with rfl | ⟨cause, hstuck⟩
  · simp [Token.scan, Token.walk]
  · rw [Reading.scan_of_isStuck hstuck, Reading.walk_of_isStuck hstuck]

end DeclLang
