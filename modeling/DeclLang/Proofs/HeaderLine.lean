import DeclLang.Fixture.Report
import DeclLang.Proofs.CleanAnalysis
import DeclLang.Proofs.LineBreak
import DeclLang.Proofs.StatementSplit

/-!
# The header line

The header of a fixture stays in the text that is analysed, but its marker opens a comment that ends
with the line. So the first line consists of trivia, whatever else the header holds: the syntax
phase finds the same statements without it, the lexical phase the same tokens or error one line
further up, and the report of the fixture compares the header with the outcomes of the body alone.
-/

namespace DeclLang

/-- Trivia in front of a text belong to no statement. -/
theorem Statement.split_trivia {x : Stretch} {rest : Text} (hx : x.IsRead rest)
    (htrivia : x.isTrivia) : split (x.text ++ rest) = split rest := by
  have hquiet : ∀ s ∈ x.spellings, s.IsQuiet := by
    cases x <;> first | contradiction | simp [Stretch.spellings]
  have hblank : ∃ c, x.plain = .blank c ∧ Text.isBlank c := by
    cases x with
    | blank c => exact ⟨c, rfl, hx⟩
    | comment w => exact ⟨' ', rfl, by decide⟩
    | token kind w => contradiction
  obtain ⟨c, hplain, hc⟩ := hblank
  rw [split_eq_splitPlain, Stretch.strip_text_append hx hquiet, hplain]
  exact splitPlain_cons hc _

namespace Reading

/-- A reading of trivia in front of a text belongs to no statement. -/
theorem split_trivia {r : Reading} {rest : Text} (hr : r.IsReadBefore rest)
    (htrivia : ∀ x ∈ r, x.isTrivia) :
    Statement.split (r.text ++ rest) = Statement.split rest := by
  induction r with
  | nil => rfl
  | cons x r ih =>
    obtain ⟨hx, hrest⟩ := List.forall_mem_cons.1 htrivia
    rw [text_cons, List.append_assoc, Statement.split_trivia hr.1 hx, ih hr.2 hrest]

/-- A line of trivia above a text belongs to no statement. -/
theorem split_trivia_newline {r : Reading} (hr : r.IsReadBefore [])
    (htrivia : ∀ x ∈ r, x.isTrivia) (b : Text) :
    Statement.split (r.text ++ '\n' :: b) = Statement.split b := by
  have hupper : r.IsReadBefore ('\n' :: b) := hr.of_breaksLineLike (.inr (by simp))
  have hnewline : Text.isBlank '\n' := by decide
  rw [split_trivia hupper htrivia]
  exact Statement.split_trivia (x := .blank '\n') hnewline rfl

/-- Blanks are a reading of themselves. -/
theorem isReadBefore_blanks {blanks : Text} (h : ∀ c ∈ blanks, Text.isBlank c) (rest : Text) :
    IsReadBefore rest (blanks.map .blank) := by
  induction blanks with
  | nil => trivial
  | cons c blanks ih =>
    obtain ⟨hc, hblanks⟩ := List.forall_mem_cons.1 h
    exact ⟨hc, ih hblanks⟩

end Reading

namespace Header

variable {source : Text} {expected : PerPhase Expectation}

/-- The first line of a source as it is written, without the newline behind it. -/
def line (source : Text) : Text := source.takeWhile (· ≠ '\n')

/-- What is behind the first newline of a source; nothing if there is none. -/
def body (source : Text) : Text := (source.dropWhile (· ≠ '\n')).drop 1

/-- The byte offset where the body of a source starts. -/
def bodyStart (source : Text) : Nat := source.byteSize - (body source).byteSize

/-- A source is its first line alone, or the first line, a newline and the body. -/
theorem eq_line_or (source : Text) :
    source = line source ∧ body source = [] ∨ source = line source ++ '\n' :: body source := by
  have hparts : line source ++ source.dropWhile (· ≠ '\n') = source :=
    List.takeWhile_append_dropWhile
  cases hrest : source.dropWhile (· ≠ '\n') with
  | nil =>
    left
    rw [hrest, List.append_nil] at hparts
    exact ⟨hparts.symm, by rw [body, hrest]; rfl⟩
  | cons c rest =>
    right
    have hnewline : c = '\n' := by
      have hfails : decide (c ≠ '\n') = false :=
        Text.head?_dropWhile (s := source) (by rw [hrest]; rfl)
      simpa using hfails
    rw [hrest, hnewline] at hparts
    rw [body, hrest]
    exact hparts.symm

/-- The first line holds no newline. -/
theorem newline_notMem_line (source : Text) : '\n' ∉ line source := by
  intro h
  unfold line at h
  simpa using List.mem_takeWhile_imp h

/-- A header is a comment behind blanks. -/
theorem exists_comment_of_parse (h : parse source = .ok expected) :
    ∃ blanks comment, line source = blanks ++ '/' :: '/' :: comment ∧
      ∀ c ∈ blanks, Text.isBlank c := by
  have hmarker : marker.toList <+: Text.trim (line source) := by
    simp only [parse] at h
    split at h
    · exact List.isPrefixOf_iff_prefix.1 ‹_›
    · contradiction
  have hslashes : marker.toList = '/' :: '/' :: marker.toList.drop 2 := by decide
  obtain ⟨words, hwords⟩ := hmarker.trans (Text.trimRight_isPrefix _)
  refine ⟨(line source).takeWhile Text.isBlank, marker.toList.drop 2 ++ words, ?_, ?_⟩
  · calc
      line source = (line source).takeWhile Text.isBlank ++ Text.trimLeft (line source) :=
        List.takeWhile_append_dropWhile.symm
      _ = (line source).takeWhile Text.isBlank ++ (marker.toList ++ words) := by rw [hwords]
      _ = _ := by rw [hslashes]; rfl
  · exact fun c hc => List.mem_takeWhile_imp hc

/-- The line of a header consists of trivia. -/
theorem exists_reading_of_parse (h : parse source = .ok expected) :
    ∃ r : Reading, r.text = line source ∧ r.IsReadBefore [] ∧ ∀ x ∈ r, x.isTrivia := by
  obtain ⟨blanks, comment, hline, hblanks⟩ := exists_comment_of_parse h
  have hcomment : Stretch.IsRead [] (.comment ('/' :: '/' :: comment)) := by
    have hnewline : '\n' ∉ comment := by
      intro hmem
      exact newline_notMem_line source (by simp [hline, hmem])
    exact Comment.front?_line hnewline (by simp)
  refine ⟨blanks.map .blank ++ [.comment ('/' :: '/' :: comment)], ?_, ?_, ?_⟩
  · rw [hline]
    simp [Reading.text, Stretch.text, List.flatMap_map]
  · exact Reading.isReadBefore_append.2
      ⟨Reading.isReadBefore_blanks hblanks _, by simpa using hcomment, trivial⟩
  · intro x hx
    rcases List.mem_append.1 hx with hblank | hcomment
    · obtain ⟨c, -, rfl⟩ := List.mem_map.1 hblank
      rfl
    · rw [List.mem_singleton.1 hcomment]
      rfl

/-- A header belongs to no statement. -/
theorem parse_eq_parse_body (h : parse source = .ok expected) :
    DeclLang.parse source = DeclLang.parse (body source) := by
  obtain ⟨r, htext, hr, htrivia⟩ := exists_reading_of_parse h
  have hsplit : Statement.split source = Statement.split (body source) := by
    rcases eq_line_or source with ⟨hsource, hbody⟩ | hsource
    · calc
        Statement.split source = Statement.split (r.text ++ []) := by
          rw [List.append_nil, htext, ← hsource]
        _ = Statement.split (body source) := by rw [hbody, Reading.split_trivia hr htrivia]
    · calc
        Statement.split source = Statement.split (r.text ++ '\n' :: body source) := by
          rw [htext, ← hsource]
        _ = Statement.split (body source) := Reading.split_trivia_newline hr htrivia _
  rw [DeclLang.parse, DeclLang.parse, parseDeclarations, parseDeclarations, hsplit]

/-- A source with a header has the tokens or the error of its body, one line further down. -/
theorem lex_eq_below_lex_body (h : parse source = .ok expected) :
    lex source = Token.below (bodyStart source) 1 (lex (body source)) := by
  obtain ⟨r, htext, hr, htrivia⟩ := exists_reading_of_parse h
  have hnone : r.tokensFrom 0 = [] := Reading.tokensFrom_trivia htrivia 0
  rcases eq_line_or source with ⟨hsource, hbody⟩ | hsource
  · have hempty : lex [] = .ok [] := Reading.lex_text (r := []) trivial
    rw [hbody, hempty, hsource, ← htext, Reading.lex_text hr, hnone]
    rfl
  · have hstart : bodyStart source = r.text.byteSize + 1 := by
      have hnewline : '\n'.utf8Size = 1 := rfl
      have hsize := congrArg Text.byteSize hsource
      rw [Text.byteSize_append, Text.byteSize_cons] at hsize
      rw [bodyStart, htext]
      omega
    have hcount : (line source).count '\n' = 0 :=
      List.count_eq_zero_of_not_mem (newline_notMem_line source)
    calc
      lex source = lex (r.text ++ '\n' :: body source) := by rw [htext, ← hsource]
      _ = Token.below (bodyStart source) 1 (lex (body source)) := by
        rw [Reading.lex_text_newline hr, hnone, Token.prepend_nil, ← hstart, htext, hcount]

end Header

/-- The labels of the outcomes stay when a text is moved down and its statements stay. -/
theorem label_outcome_analyze {s t : Text} {bytes lines : Nat}
    (hlex : lex s = Token.below bytes lines (lex t)) (hparse : parse s = parse t) (phase : Phase) :
    ((analyze s).outcome phase).label = ((analyze t).outcome phase).label := by
  rw [Analysis.outcome, Analysis.outcome, outcomes_analyze, outcomes_analyze, hlex, hparse]
  cases lex t with
  | error e => cases phase <;> rfl
  | ok tokens => cases parse t <;> rfl

/-- A report passes just when every phase has the label that is expected of it. -/
theorem Report.passed_iff {r : Report} :
    r.passed ↔ ∀ phase, (r.expected.get phase).label = (r.actual.get phase).label := by
  have hall (phase : Phase) : phase ∈ Phase.all := by cases phase <;> decide
  rw [passed, List.isEmpty_iff, mismatches, List.filter_eq_nil_iff]
  simp [Expectation.accepts, hall]

/-- The header of a fixture has no influence on the analysis. The source with its header has the
tree or the syntax error of its body, and the tokens or the lexical error of its body where the body
stands, one line further down. So every phase ends with the same label for both, and the report of
the fixture passes just when the header expects the labels of the body. -/
theorem Fixture.analysis_ignores_header {source : Text} {expected : PerPhase Expectation}
    (h : Header.parse source = .ok expected) :
    parse source = parse (Header.body source) ∧
    lex source = Token.below (Header.bodyStart source) 1 (lex (Header.body source)) ∧
    (∀ phase, ((analyze source).outcome phase).label =
      ((analyze (Header.body source)).outcome phase).label) ∧
    ∀ path, ∃ fixture, ofSource path source = .ok fixture ∧
      (fixture.run.passed ↔ ∀ phase, (expected.get phase).label =
        ((analyze (Header.body source)).outcome phase).label) := by
  have hparse := Header.parse_eq_parse_body h
  have hlex := Header.lex_eq_below_lex_body h
  have hlabels := label_outcome_analyze hlex hparse
  refine ⟨hparse, hlex, hlabels, fun path => ⟨⟨path, source, expected⟩, ?_, ?_⟩⟩
  · rw [ofSource, h]
  · rw [Report.passed_iff]
    exact forall_congr' fun phase => by rw [← hlabels]; rfl

/-- An open comment right below a header is an error at the start of the second line. -/
theorem Fixture.open_comment_below_header :
    Header.parse "\t// expect:lexical=error\r\n/*".toList = .ok ⟨.error, .skip, .skip⟩ ∧
      parse "\t// expect:lexical=error\r\n/*".toList = parse "/*".toList ∧
      lex "\t// expect:lexical=error\r\n/*".toList = .error ⟨.unterminatedComment, 2, 1⟩ ∧
      ∃ fixture, ofSource ['f'] "\t// expect:lexical=error\r\n/*".toList = .ok fixture ∧
        fixture.run.passed := by
  have hheader : Header.parse "\t// expect:lexical=error\r\n/*".toList =
      .ok ⟨.error, .skip, .skip⟩ := by
    decide +kernel
  have hbody : Header.body "\t// expect:lexical=error\r\n/*".toList = "/*".toList := by
    decide +kernel
  have herror : lex "/*".toList = .error ⟨.unterminatedComment, 1, 1⟩ := by decide +kernel
  obtain ⟨hparse, hlex, -, hreport⟩ := analysis_ignores_header hheader
  rw [hbody] at hparse hlex
  rw [herror] at hlex
  obtain ⟨fixture, hfixture, hpassed⟩ := hreport ['f']
  refine ⟨hheader, hparse, hlex, fixture, hfixture, hpassed.2 fun phase => ?_⟩
  rw [Analysis.outcome, outcomes_analyze, hbody, herror]
  cases phase <;> rfl

end DeclLang
