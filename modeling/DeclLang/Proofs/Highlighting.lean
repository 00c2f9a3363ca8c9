import DeclLang.Proofs.LineReading

/-!
# Highlighting loses nothing

The lines that are shown are readings by themselves, and the tokens of a line are those that its
highlighting finds. So no cut of it is off a character, the spans of a line make up its text, and
each of them is a token in the style of its kind or a gap of blanks and comments. Over all lines the
spans in the style of a kind are the tokens of the source, each once and in their order.

The rows are found by a search for the first token that ends behind the start of a line. That tokens
end one behind the other makes it find the same token as going through them from the front.
-/

namespace DeclLang

/-- A token as a span in the style of its kind, with the byte offset where it starts. -/
def Token.shown (t : Token) : Nat × Span := (t.start, ⟨t.lexeme, t.kind.style⟩)

/-- No kind of token has the style between tokens. -/
theorem Token.Kind.style_ne_gapStyle (kind : Token.Kind) : kind.style ≠ Highlight.gapStyle := by
  cases kind <;> decide

namespace Highlight

/-- A span shows a whole token in the style of its kind, or blanks and characters of comments beside
all tokens in the style between tokens. -/
inductive Shows (comments : List (Nat × Nat)) (tokens : List Token) : Nat → Span → Prop
  | token {t : Token} : t ∈ tokens → t.stop = t.start + t.lexeme.byteSize →
      Shows comments tokens t.start ⟨t.lexeme, t.kind.style⟩
  | gap {start : Nat} {w : Text} :
      (∀ t ∈ tokens, t.stop ≤ start ∨ start + w.byteSize ≤ t.start) →
      (∀ p ∈ placed List.singleton start w, Text.isBlank p.2 ∨ LiesIn comments p.1 [p.2]) →
      Shows comments tokens start ⟨w, gapStyle⟩

/-- A gap as a span, or nothing where it is empty. -/
def gapSpans (w : Text) : Line := if w = [] then [] else [⟨w, gapStyle⟩]

/-- The span of a gap, if there is one, has the text of the gap. -/
theorem flatMap_text_gapSpans (w : Text) : (gapSpans w).flatMap Span.text = w := by
  by_cases hw : w = [] <;> simp [gapSpans, hw]

/-- The span of a gap, if there is one, has the style between tokens. -/
theorem filter_placed_gapSpans (w : Text) (offset : Nat) :
    (placed Span.text offset (gapSpans w)).filter (·.2.style ≠ gapStyle) = [] := by
  by_cases hw : w = [] <;> simp [gapSpans, placed, hw]

/-- The spans of a reading behind a gap: a token is one, and so is what lies between two tokens. -/
def spansBehind (gap : Text) : Reading → Line
  | [] => gapSpans gap
  | .token kind w :: rest => gapSpans gap ++ ⟨w, kind.style⟩ :: spansBehind [] rest
  | x :: rest => spansBehind (gap ++ x.text) rest

/-- Trivia in front of a reading make a gap longer. -/
theorem spansBehind_of_isTrivia {x : Stretch} (htrivia : x.isTrivia) (gap : Text)
    (rest : Reading) : spansBehind gap (x :: rest) = spansBehind (gap ++ x.text) rest := by
  cases x with
  | blank c | comment w => rfl
  | token kind w => contradiction

/-- The piece between the ends of a first and of a second part of a line is the second. -/
theorem piece?_append (pre w post : Text) (lineStart : Nat) (style : Style) :
    piece? (pre ++ (w ++ post)) lineStart (lineStart + pre.byteSize)
      (lineStart + pre.byteSize + w.byteSize) style = some ⟨w, style⟩ := by
  rw [piece?, if_neg (by omega), Nat.add_assoc, Nat.add_sub_cancel_left, Nat.add_sub_cancel_left,
    Text.slice?_append]
  rfl

/-- The gap between the ends of a first and of a second part of a line is the second. -/
theorem gap?_append (pre w post : Text) (lineStart : Nat) :
    gap? (pre ++ (w ++ post)) lineStart (lineStart + pre.byteSize)
      (lineStart + pre.byteSize + w.byteSize) = some (gapSpans w) := by
  rw [gap?, gapSpans, piece?_append]
  by_cases hw : w = []
  · simp [hw]
  · rw [if_pos (Nat.lt_add_of_pos_right (Text.byteSize_pos hw)), if_neg hw]
    rfl

/-- The highlighting of a line goes over its tokens, and stops before the tokens of later lines. -/
theorem spansFrom?_eq {line : Reading} (hline : ∀ x ∈ line, x.IsAtom) (pre gap : Text)
    {text : Text} (htext : text = pre ++ (gap ++ line.text)) {lineStart : Nat}
    {later : List Token} (hlater : ∀ t ∈ later, lineStart + text.byteSize ≤ t.start) :
    spansFrom? text lineStart (lineStart + pre.byteSize)
        (line.tokensFrom (lineStart + pre.byteSize + gap.byteSize) ++ later) =
      some (spansBehind gap line) := by
  -- along the line the open gap grows with trivia, and a token moves it in front of the cursor
  induction line using Reading.recTriviaToken generalizing pre gap with
  | nil =>
    have hend : gap? text lineStart (lineStart + pre.byteSize) (lineStart + text.byteSize) =
        some (gapSpans gap) := by
      have hsize : lineStart + text.byteSize = lineStart + pre.byteSize + gap.byteSize := by
        simp [htext, Nat.add_assoc]
      rw [hsize, htext, gap?_append]
    cases later with
    | nil => exact hend
    | cons t later =>
      have ht := hlater t List.mem_cons_self
      rw [Reading.tokensFrom, List.nil_append, spansFrom?, if_neg (by omega), hend]
      rfl
  | trivia x rest hx ih =>
    have hlonger := ih (List.forall_mem_cons.1 hline).2 pre (gap ++ x.text) (by simp [htext])
    rw [Text.byteSize_append, ← Nat.add_assoc] at hlonger
    rw [Reading.tokensFrom_cons_of_isTrivia hx, hlonger, spansBehind_of_isTrivia hx]
  | token kind w rest ih =>
    obtain ⟨hw, hrest⟩ := List.forall_mem_cons.1 hline
    have hwhole : text = pre ++ (gap ++ (w ++ Reading.text rest)) := htext
    have hgap := gap?_append pre gap (w ++ Reading.text rest) lineStart
    have hlexeme := piece?_append (pre ++ gap) w (Reading.text rest) lineStart kind.style
    have hbehind := ih hrest (pre ++ gap ++ w) [] (by simp [hwhole])
    have hinside : lineStart + pre.byteSize + gap.byteSize < lineStart + text.byteSize := by
      have hpos : 0 < w.byteSize := Text.byteSize_pos hw.text_ne_nil
      simp only [hwhole, Text.byteSize_append]
      omega
    rw [List.append_assoc, ← hwhole] at hlexeme
    rw [← hwhole] at hgap
    simp only [Text.byteSize_append, Text.byteSize_nil, Nat.add_zero, ← Nat.add_assoc]
      at hlexeme hbehind
    rw [Reading.tokensFrom, Stretch.tokensAt, List.singleton_append, List.cons_append,
      spansFrom?, if_pos hinside, hgap, hlexeme]
    simp [Stretch.text, hbehind, spansBehind]

/-- Among the tokens of a source the highlighting of a line finds those of the line. -/
theorem line?_eq {line : Reading} (hline : ∀ x ∈ line, x.IsAtom) {lineStart : Nat}
    {earlier later : List Token} (hearlier : ∀ t ∈ earlier, t.stop ≤ lineStart)
    (hlater : ∀ t ∈ later, lineStart + line.text.byteSize ≤ t.start ∧ t.start < t.stop) :
    line? line.text lineStart (earlier ++ (line.tokensFrom lineStart ++ later)) =
      some (spansBehind [] line) := by
  have hrest : ∀ t ∈ line.tokensFrom lineStart ++ later, ¬ t.stop ≤ lineStart := by
    intro t ht
    rcases List.mem_append.1 ht with hown | hbelow
    · obtain ⟨hstart, hne, -⟩ := Reading.span_of_mem_tokensFrom hline hown
      omega
    · have := hlater t hbelow
      omega
  have hdrop : (earlier ++ (line.tokensFrom lineStart ++ later)).dropWhile (·.stop ≤ lineStart) =
      line.tokensFrom lineStart ++ later := by
    rw [List.dropWhile_append_of_pos (by simpa using hearlier), List.dropWhile_eq_self_iff]
    intro hne
    simpa using hrest _ (List.getElem_mem hne)
  rw [line?, hdrop]
  exact spansFrom?_eq hline [] [] rfl fun t ht => (hlater t ht).1

/-- The texts of the spans behind a gap are the gap and the reading. -/
theorem flatMap_text_spansBehind (gap : Text) (line : Reading) :
    (spansBehind gap line).flatMap Span.text = gap ++ line.text := by
  induction line using Reading.recTriviaToken generalizing gap with
  | nil => exact (flatMap_text_gapSpans gap).trans (List.append_nil _).symm
  | trivia x rest hx ih => rw [spansBehind_of_isTrivia hx, ih, List.append_assoc, Reading.text_cons]
  | token kind w rest ih =>
    rw [spansBehind, List.flatMap_append, List.flatMap_cons, flatMap_text_gapSpans, ih,
      List.nil_append]
    rfl

/-- The spans that are no gaps are the tokens of the reading, each once and in their order. -/
theorem filter_placed_spansBehind (gap : Text) (line : Reading) (offset : Nat) :
    (placed Span.text offset (spansBehind gap line)).filter (·.2.style ≠ gapStyle) =
      (line.tokensFrom (offset + gap.byteSize)).map Token.shown := by
  induction line using Reading.recTriviaToken generalizing gap offset with
  | nil => exact filter_placed_gapSpans gap offset
  | trivia x rest hx ih =>
    rw [spansBehind_of_isTrivia hx, ih, Reading.tokensFrom_cons_of_isTrivia hx,
      Text.byteSize_append, Nat.add_assoc]
  | token kind w rest ih =>
    rw [spansBehind, placed_append, List.filter_append, filter_placed_gapSpans,
      flatMap_text_gapSpans, placed,
      List.filter_cons_of_pos (by simpa using kind.style_ne_gapStyle), ih]
    rfl

section

variable {comments : List (Nat × Nat)} {source : Reading} (hatoms : ∀ x ∈ source, x.IsAtom)
  (hcomments : ∀ i c, (i, Stretch.comment [c]) ∈ placed Stretch.text 0 source →
    LiesIn comments i [c])

include hatoms hcomments

/-- Trivia between two parts of a source lie beside its tokens and hold nothing but blanks and
comments. -/
theorem shows_gap {above trivia below : Reading} (hsource : source = above ++ (trivia ++ below))
    (htrivia : ∀ x ∈ trivia, x.isTrivia) :
    Shows comments (source.tokensFrom 0) above.text.byteSize ⟨trivia.text, gapStyle⟩ := by
  refine .gap ?_ ?_
  · intro t ht
    rw [hsource, Reading.tokensFrom_append, Reading.tokensFrom_append,
      Reading.tokensFrom_trivia htrivia, List.nil_append, Nat.zero_add] at ht
    rcases List.mem_append.1 ht with hearlier | hlater
    · have habove : ∀ x ∈ above, x.IsAtom := fun x hx => hatoms x (by simp [hsource, hx])
      left
      simpa using (Reading.span_of_mem_tokensFrom habove hearlier).2.2
    · exact .inr (Reading.le_start hlater)
  · intro p hp
    have hboth : ∀ x ∈ trivia, x.IsAtom ∧ x.isTrivia :=
      fun x hx => ⟨hatoms x (by simp [hsource, hx]), htrivia x hx⟩
    refine (Reading.mem_placed_of_mem_placed_text hboth hp).imp_right fun hmem => hcomments _ _ ?_
    rw [hsource, placed_append, placed_append, Nat.zero_add]
    exact List.mem_append_right _ (List.mem_append_left _ hmem)

/-- The span of a gap, if there is one, shows it. -/
theorem shows_gapSpans {above trivia below : Reading}
    (hsource : source = above ++ (trivia ++ below)) (htrivia : ∀ x ∈ trivia, x.isTrivia) :
    ∀ p ∈ placed Span.text above.text.byteSize (gapSpans trivia.text),
      Shows comments (source.tokensFrom 0) p.1 p.2 := by
  intro p hp
  rw [gapSpans] at hp
  split at hp
  · contradiction
  · rw [List.mem_singleton.1 hp]
    exact shows_gap hatoms hcomments hsource htrivia

/-- Every span of a line shows a token or a gap. -/
theorem shows_spansBehind (above trivia : Reading) {line below : Reading}
    (hsource : source = above ++ (trivia ++ (line ++ below)))
    (htrivia : ∀ x ∈ trivia, x.isTrivia) :
    ∀ p ∈ placed Span.text above.text.byteSize (spansBehind trivia.text line),
      Shows comments (source.tokensFrom 0) p.1 p.2 := by
  induction line using Reading.recTriviaToken generalizing above trivia with
  | nil => exact shows_gapSpans hatoms hcomments hsource htrivia
  | trivia x rest hx ih =>
    have hlonger : Reading.text (trivia ++ [x]) = trivia.text ++ x.text := by simp
    rw [spansBehind_of_isTrivia hx, ← hlonger]
    exact ih above (trivia ++ [x]) (by simp [hsource])
      (List.forall_mem_append.2 ⟨htrivia, by simpa using hx⟩)
  | token kind w rest ih =>
    rw [spansBehind, placed_append, flatMap_text_gapSpans, placed]
    refine List.forall_mem_append.2 ⟨shows_gapSpans hatoms hcomments hsource htrivia,
      List.forall_mem_cons.2 ⟨?_, ?_⟩⟩
    · have htoken : ⟨kind, w, above.text.byteSize + trivia.text.byteSize,
          above.text.byteSize + trivia.text.byteSize + w.byteSize⟩ ∈ source.tokensFrom 0 := by
        rw [hsource, Reading.tokensFrom_append, Reading.tokensFrom_append, Nat.zero_add]
        exact List.mem_append_right _ (List.mem_append_right _ List.mem_cons_self)
      exact .token htoken rfl
    · have hbehind := ih (above ++ (trivia ++ [.token kind w])) [] (by simp [hsource]) (by simp)
      simpa [Stretch.text, Nat.add_assoc] using hbehind

end

end Highlight

/-- Every line of a reading in atoms that is shown has its spans. -/
theorem Reading.line?_eq_of_mem_shownFrom {r : Reading} (hr : ∀ x ∈ r, x.IsAtom)
    {start : Nat} {line : Reading}
    (hline : (start, line) ∈ shownFrom 0 (r.splitOn (.blank '\n'))) :
    Highlight.line? line.text start (r.tokensFrom 0) = some (Highlight.spansBehind [] line) := by
  obtain ⟨above, below, hparts, rfl⟩ := exists_of_mem_shownFrom hline
  rw [List.intercalate_splitOn] at hparts
  have habove : ∀ x ∈ above, x.IsAtom := fun x hx => hr x (by simp [hparts, hx])
  have hown : ∀ x ∈ line, x.IsAtom := fun x hx => hr x (by simp [hparts, hx])
  have hbelow : ∀ x ∈ below, x.IsAtom := fun x hx => hr x (by simp [hparts, hx])
  rw [Nat.zero_add, hparts, tokensFrom_append, tokensFrom_append, Nat.zero_add]
  apply Highlight.line?_eq hown
  · intro t ht
    simpa using (span_of_mem_tokensFrom habove ht).2.2
  · intro t ht
    obtain ⟨hstart, hne, -⟩ := span_of_mem_tokensFrom hbelow ht
    exact ⟨hstart, hne⟩

/-- Tokens fit the text that they were read from, so every line that is shown can be highlighted. -/
theorem exists_line?_of_lex {source : Text} {tokens : List Token} (h : lex source = .ok tokens) :
    ∀ p ∈ SourcePane.shownLines source, ∃ spans, Highlight.line? p.2 p.1 tokens = some spans := by
  obtain ⟨r, rfl, hr, rfl⟩ := lex_eq_ok_iff.1 h
  have hatoms := Reading.isAtom_of_mem_atoms hr
  rw [← Reading.tokensFrom_atoms, ← Reading.text_atoms, Reading.shownLines_text hatoms,
    List.forall_mem_map]
  exact fun p hp => ⟨_, Reading.line?_eq_of_mem_shownFrom hatoms hp⟩

/-- Every line of a reading in atoms that is shown has its spans, and they show what they should. -/
theorem Reading.line?_of_mem_shownFrom {r : Reading} (hr : ∀ x ∈ r, x.IsAtom)
    {comments : List (Nat × Nat)}
    (hcomments : ∀ i c, (i, Stretch.comment [c]) ∈ placed Stretch.text 0 r →
      LiesIn comments i [c])
    {start : Nat} {line : Reading}
    (hline : (start, line) ∈ shownFrom 0 (r.splitOn (.blank '\n'))) :
    Highlight.line? line.text start (r.tokensFrom 0) = some (Highlight.spansBehind [] line) ∧
      ∀ q ∈ placed Span.text start (Highlight.spansBehind [] line),
        Highlight.Shows comments (r.tokensFrom 0) q.1 q.2 := by
  refine ⟨line?_eq_of_mem_shownFrom hr hline, ?_⟩
  obtain ⟨above, below, hparts, rfl⟩ := exists_of_mem_shownFrom hline
  rw [List.intercalate_splitOn] at hparts
  rw [Nat.zero_add]
  exact Highlight.shows_spansBehind hr hcomments above [] hparts (by simp)

/-- Highlighting is lossless. The tokens of a source end one behind the other. Every line that is
shown has spans that make up its text; each of them shows a whole token in the style of its kind, or
blanks and characters of comments beside all tokens in the style between tokens; and over all lines
the spans in any other style are the tokens, each once and in their order. -/
theorem highlight_lossless {source : Text} {tokens : List Token} (h : lex source = .ok tokens) :
    tokens.Pairwise (·.stop < ·.stop) ∧
    ∃ spans : Nat × Text → Line,
      (∀ p ∈ SourcePane.shownLines source,
        Highlight.line? p.2 p.1 tokens = some (spans p) ∧ Line.text (spans p) = p.2 ∧
        ∀ q ∈ placed Span.text p.1 (spans p),
          Highlight.Shows (Segment.rangesFrom .comment 0 (Segment.split source)) tokens q.1 q.2) ∧
      ((SourcePane.shownLines source).flatMap fun p =>
          (placed Span.text p.1 (spans p)).filter (·.2.style ≠ Highlight.gapStyle)) =
        tokens.map Token.shown := by
  obtain ⟨r, rfl, hr, rfl⟩ := lex_eq_ok_iff.1 h
  have hatoms := Reading.isAtom_of_mem_atoms hr
  have hcomments (i : Nat) (c : Char)
      (hmem : (i, Stretch.comment [c]) ∈ placed Stretch.text 0 r.atoms) :=
    Reading.liesIn_of_mem_placed hr hmem
  rw [List.append_nil] at hcomments
  rw [← Reading.tokensFrom_atoms, ← Reading.text_atoms]
  rw [← Reading.text_atoms] at hcomments
  -- the comments are found in the reading, all else in its atoms
  generalize r.atoms = a at *
  have hshown {p : Nat × Reading}
      (hp : p ∈ Reading.shownFrom 0 (a.splitOn (.blank '\n'))) :=
    Reading.line?_of_mem_shownFrom hatoms hcomments hp
  obtain ⟨spans, hspans⟩ : ∃ spans : Nat × Text → Line,
      ∀ p ∈ Reading.shownFrom 0 (a.splitOn (.blank '\n')),
        spans (p.1, p.2.text) = Highlight.spansBehind [] p.2 :=
    ⟨fun q => (Highlight.line? q.2 q.1 (a.tokensFrom 0)).getD [], fun p hp => by
      simp [(hshown hp).1]⟩
  refine ⟨Reading.pairwise_stop_tokensFrom hatoms 0, spans, ?_, ?_⟩
  · rw [Reading.shownLines_text hatoms, List.forall_mem_map]
    intro p hp
    obtain ⟨hfound, hshows⟩ := hshown hp
    rw [hspans p hp]
    exact ⟨hfound, Highlight.flatMap_text_spansBehind [] p.2, hshows⟩
  · rw [Reading.shownLines_text hatoms, List.flatMap_map]
    calc
      _ = (Reading.shownFrom 0 (a.splitOn (.blank '\n'))).flatMap
          fun p => (p.2.tokensFrom p.1).map Token.shown := by
        refine List.flatMap_congr fun p hp => ?_
        rw [hspans p hp, Highlight.filter_placed_spansBehind]
        rfl
      _ = (a.tokensFrom 0).map Token.shown := by
        rw [← List.map_flatMap, Reading.flatMap_tokensFrom_shownFrom, List.intercalate_splitOn]

/-- A line may start in a comment, and a carriage return in a literal stays when the one at the end
of the line goes. -/
theorem highlight_behind_comment :
    lex "/* é\r\n*/ \"\r\"\r\nint".toList =
        .ok [⟨.string, "\"\r\"".toList, 10, 13⟩, ⟨.keyword, "int".toList, 15, 18⟩] ∧
      ∃ spans, Highlight.line? "*/ \"\r\"".toList 7
          [⟨.string, "\"\r\"".toList, 10, 13⟩, ⟨.keyword, "int".toList, 15, 18⟩] = some spans ∧
        Line.text spans = "*/ \"\r\"".toList ∧
        ∀ q ∈ placed Span.text 7 spans, Highlight.Shows [(0, 9)]
          [⟨.string, "\"\r\"".toList, 10, 13⟩, ⟨.keyword, "int".toList, 15, 18⟩] q.1 q.2 := by
  have hlex : lex "/* é\r\n*/ \"\r\"\r\nint".toList =
      .ok [⟨.string, "\"\r\"".toList, 10, 13⟩, ⟨.keyword, "int".toList, 15, 18⟩] := by
    decide +kernel
  have hcomments : Segment.rangesFrom .comment 0
      (Segment.split "/* é\r\n*/ \"\r\"\r\nint".toList) = [(0, 9)] := by
    decide +kernel
  obtain ⟨-, spans, hlines, -⟩ := highlight_lossless hlex
  rw [hcomments] at hlines
  exact ⟨hlex, _, hlines (7, "*/ \"\r\"".toList) (by decide +kernel)⟩

end DeclLang
