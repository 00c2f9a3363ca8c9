import DeclLang.Proofs.CommentFree
import DeclLang.Proofs.LineBreak

/-!
# The place of a lexical error

The reading of a source that has no tokens gets stuck. Up to that place it is also a reading of the
text before it, for a stretch that is found in front of anything is found at the end of a text. So
the text before the error has tokens, and behind it neither trivia nor a token can be read.

The place is where the walk from the left gets stuck. An offset inside a token can have the same
properties without being that place: the digit of `1. +` is a text with tokens, and no production
matches at the point.
-/

namespace DeclLang

/-- Where a byte offset is the end of a first part of a text, its location is behind that part. -/
theorem Location.ofOffset?_append (a b : Text) :
    ofOffset? (a ++ b) a.byteSize = some (after a) := by
  have hle : a.byteSize ≤ (a ++ b).byteSize := by simp
  rw [ofOffset?, Nat.min_eq_left hle, Text.isBoundary_append, if_pos rfl, atOffset_append]

/-- Neither trivia nor a token starts at the front of a text, for the given cause. -/
structure OpensUnreadable (s : Text) (cause : LexicalError.Cause) : Prop where
  /-- The text does not start with a blank. -/
  blank : ∀ c ∈ s.head?, Text.isBlank c = false
  /-- The text does not start with a line comment. -/
  line : ¬ ['/', '/'] <+: s
  /-- A block comment that the text starts with is never closed. -/
  block : ∀ b, s = '/' :: '*' :: b → ¬ ['*', '/'] <:+: b
  /-- No production matches, or the first one that does is a character literal that holds neither
  one character nor a backslash with one character behind it. -/
  token : ((∀ production : Production, production.front? s = none) ∧ cause = .unmatched s) ∨
    ∃ w, Production.first? s = some (.charLiteral, w) ∧
      (∀ c, Quoted.content w ≠ [c]) ∧ (∀ c, Quoted.content w ≠ ['\\', c]) ∧
      cause = .badCharLiteral w

namespace Reading

/-- A text at which a reading is stuck starts with nothing that can be read. -/
theorem IsStuck.opensUnreadable {s : Text} {cause : LexicalError.Cause} (h : IsStuck s cause) :
    OpensUnreadable s cause := by
  obtain ⟨hline, hblock⟩ := Comment.front?_eq_none_iff.1 h.comment
  refine ⟨h.blank, hline, hblock, ?_⟩
  rcases Token.read_eq_error_iff.1 (h.token 0) with ⟨hnone, hcause⟩ | ⟨w, hfirst, hsingle, hcause⟩
  · exact .inl ⟨Production.first?_eq_none_iff.1 hnone, hcause⟩
  · right
    have hfront : Quoted.front? '\'' false s = some w := Production.front?_of_first? hfirst
    have hcontent := mt (Quoted.isSingle_content_iff (by decide) hfront).2 (by simpa using hsingle)
    obtain ⟨hone, hescape⟩ := not_or.1 hcontent
    exact ⟨w, hfirst, not_exists.1 hone, not_exists.1 hescape, hcause⟩

/-- The text of a reading has tokens whatever the reading stands in front of. -/
theorem lex_text_of_isReadBefore {r : Reading} {s : Text} (hr : r.IsReadBefore s) :
    lex r.text = .ok (r.tokensFrom 0) :=
  lex_text (hr.of_breaksLineLike (.inr (by simp)))

end Reading

/-- A lexical error lies at the first place that cannot be read. The location of the error is that
of a byte offset between two characters of the source; the text before the offset has tokens, and
at the offset neither trivia nor a token starts. -/
theorem lex_error_at_first_unreadable {source : Text} {e : LexicalError}
    (h : lex source = .error e) :
    ∃ p < source.byteSize, source.isBoundary p ∧
      Location.ofOffset? source p = some e.location ∧
      (∃ tokens, lex (source.takeBytes p) = .ok tokens) ∧
      OpensUnreadable (source.dropBytes p) e.cause := by
  obtain ⟨r, rest, rfl, hr, rfl | ⟨cause, hstuck⟩⟩ := Reading.exists_reading source
  · rw [List.append_nil, Reading.lex_text hr] at h
    contradiction
  · rw [Reading.lex_of_isStuck hr hstuck] at h
    cases h
    refine ⟨r.text.byteSize, ?_, Text.isBoundary_append _ _, Location.ofOffset?_append _ _, ?_, ?_⟩
    · have hpos := Text.byteSize_pos hstuck.ne_nil
      rw [Text.byteSize_append]
      omega
    · rw [Text.takeBytes_append]
      exact ⟨_, Reading.lex_text_of_isReadBefore hr⟩
    · rw [Text.dropBytes_append]
      exact hstuck.opensUnreadable

/-- A string that is never closed is the error although a comment and a character literal seem to
open in it, and the quote in the comment above it is none. -/
theorem lex_error_at_open_string :
    lex "x // it's\n \"\\\" /* 'ab'".toList = .error ⟨.unterminatedString, 2, 2⟩ ∧
      ∃ p, Location.ofOffset? "x // it's\n \"\\\" /* 'ab'".toList p = some ⟨2, 2⟩ ∧
        (∃ tokens, lex (Text.takeBytes "x // it's\n \"\\\" /* 'ab'".toList p) = .ok tokens) ∧
        OpensUnreadable (Text.dropBytes "x // it's\n \"\\\" /* 'ab'".toList p)
          .unterminatedString := by
  have herror : lex "x // it's\n \"\\\" /* 'ab'".toList = .error ⟨.unterminatedString, 2, 2⟩ := by
    decide +kernel
  obtain ⟨p, -, -, hlocation, hbefore, hopens⟩ := lex_error_at_first_unreadable herror
  exact ⟨herror, p, hlocation, hbefore, hopens⟩

end DeclLang
