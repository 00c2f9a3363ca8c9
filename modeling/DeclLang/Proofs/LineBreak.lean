import DeclLang.Proofs.PlainReading

/-!
# Texts one below the other

A newline ends every token and every line comment, and no block comment is left open in a text that
can be read to its end. Such a text is read in the same way when a newline and a second text are
put below it, and the second text is read as it is by itself, only further down: the spans of its
tokens are moved by the bytes above it, and the line of an error by the lines above it.
-/

namespace DeclLang

namespace Location

/-- The same column a number of lines further down. -/
def below (lines : Nat) (l : Location) : Location := { l with line := l.line + lines }

/-- A place in the lower of two texts keeps its column, and its line is further down. -/
theorem after_append_newline (a b : Text) :
    after (a ++ '\n' :: b) = (after b).below (a.count '\n' + 1) := by
  have hline : (a ++ '\n' :: b).count '\n' + 1 = b.count '\n' + 1 + (a.count '\n' + 1) := by
    rw [List.count_append, List.count_cons_self]
    omega
  have hcolumn : (a ++ '\n' :: b).reverse.takeWhile (· ≠ '\n') =
      b.reverse.takeWhile (· ≠ '\n') := by
    rw [List.reverse_append, List.reverse_cons, List.append_assoc, List.takeWhile_append]
    split
    · rename_i hall
      have hwhole := (List.takeWhile_prefix _).eq_of_length hall
      rw [hwhole]
      exact List.append_nil _
    · rfl
  rw [after, hline, hcolumn]
  rfl

end Location

/-- The same error a number of lines further down. -/
def LexicalError.below (lines : Nat) (e : LexicalError) : LexicalError :=
  { e with location := e.location.below lines }

/-- What the lexical phase makes of a text when a number of bytes and lines stand above it. -/
def Token.below (bytes lines : Nat) :
    Except LexicalError (List Token) → Except LexicalError (List Token)
  | .ok tokens => .ok (tokens.map (Token.shift bytes))
  | .error e => .error (e.below lines)

namespace Reading

/-- The tokens of a reading in two parts are those of the parts. -/
theorem tokensFrom_append (r r' : Reading) (offset : Nat) :
    tokensFrom offset (r ++ r') =
      tokensFrom offset r ++ tokensFrom (offset + r.text.byteSize) r' := by
  induction r generalizing offset with
  | nil => rfl
  | cons x r ih =>
    rw [List.cons_append, tokensFrom, ih, tokensFrom, List.append_assoc, text_cons,
      Text.byteSize_append, Nat.add_assoc]

/-- A reading of trivia has no tokens. -/
theorem tokensFrom_trivia {r : Reading} (htrivia : ∀ x ∈ r, x.isTrivia) (offset : Nat) :
    tokensFrom offset r = [] := by
  induction r generalizing offset with
  | nil => rfl
  | cons x r ih =>
    obtain ⟨hx, hrest⟩ := List.forall_mem_cons.1 htrivia
    cases x with
    | blank c | comment w => exact ih hrest _
    | token kind w => contradiction

/-- The tokens of a reading further on are the same ones with their spans moved. -/
theorem tokensFrom_add (r : Reading) (offset bytes : Nat) :
    tokensFrom (offset + bytes) r = (tokensFrom offset r).map (Token.shift bytes) := by
  induction r generalizing offset with
  | nil => rfl
  | cons x r ih =>
    have hfirst : x.tokensAt (offset + bytes) = (x.tokensAt offset).map (Token.shift bytes) := by
      cases x with
      | blank c | comment w => rfl
      | token kind w => simp [Stretch.tokensAt, Token.shift, Nat.add_right_comm]
    rw [tokensFrom, tokensFrom, List.map_append, hfirst, Nat.add_right_comm, ih]

/-- A text has an error at the place where its reading gets stuck. -/
theorem lex_of_isStuck {r : Reading} {s : Text} {cause : LexicalError.Cause}
    (hr : r.IsReadBefore s) (hstuck : IsStuck s cause) :
    lex (r.text ++ s) = .error ⟨cause, Location.after r.text⟩ := by
  rw [lex, scan_text_append hr, scan_of_isStuck hstuck, Nat.zero_add, Token.prepend_error]
  exact congrArg (fun l => Except.error (⟨cause, l⟩ : LexicalError)) (Location.atOffset_append _ _)

/-- Below a text that is read to its end, another one is read as it is by itself. -/
theorem lex_text_newline {r : Reading} (hr : r.IsReadBefore []) (b : Text) :
    lex (r.text ++ '\n' :: b) =
      Token.prepend (r.tokensFrom 0)
        (Token.below (r.text.byteSize + 1) (r.text.count '\n' + 1) (lex b)) := by
  obtain ⟨r', rest, rfl, hr', hend⟩ := exists_reading b
  have hread : IsReadBefore rest (r ++ .blank '\n' :: r') := by
    have hupper : r.IsReadBefore ('\n' :: (r'.text ++ rest)) :=
      hr.of_breaksLineLike (.inr (by simp))
    have hblank : Text.isBlank '\n' := by decide
    exact isReadBefore_append.2 ⟨hupper, hblank, hr'⟩
  have htext : r.text ++ '\n' :: (r'.text ++ rest) = text (r ++ .blank '\n' :: r') ++ rest := by
    simp [Stretch.text]
  rw [htext]
  rcases hend with rfl | ⟨cause, hstuck⟩
  · rw [List.append_nil, List.append_nil, lex_text hread, lex_text hr', tokensFrom_append]
    have hlower : tokensFrom (0 + r.text.byteSize) (.blank '\n' :: r') =
        (tokensFrom 0 r').map (Token.shift (r.text.byteSize + 1)) := by
      rw [← tokensFrom_add, Nat.zero_add, Nat.zero_add]
      rfl
    rw [hlower]
    rfl
  · rw [lex_of_isStuck hread hstuck, lex_of_isStuck hr' hstuck, text_append, text_cons]
    have hlocation := Location.after_append_newline r.text r'.text
    simpa [Stretch.text, Token.below, LexicalError.below] using hlocation

end Reading

/-- Lexing goes line break by line break. Below a text that has tokens, the tokens of a second text
follow with their spans moved by the bytes above them; and where the second text has an error, both
together have it in the same column, as many lines further down as there are lines above. -/
theorem lex_append_newline {a b : Text} {tokens : List Token} (h : lex a = .ok tokens) :
    (∀ later, lex b = .ok later →
      lex (a ++ '\n' :: b) = .ok (tokens ++ later.map (Token.shift (a.byteSize + 1)))) ∧
    ∀ e, lex b = .error e →
      lex (a ++ '\n' :: b) =
        .error ⟨e.cause, e.location.line + (a.count '\n' + 1), e.location.column⟩ := by
  obtain ⟨r, rfl, hr, rfl⟩ := lex_eq_ok_iff.1 h
  rw [Reading.lex_text_newline hr]
  constructor
  · intro later hlater
    rw [hlater]
    rfl
  · intro e herror
    rw [herror]
    rfl

/-- A comment at the end of the upper text hides nothing of the lower one: neither its token nor its
error. -/
theorem lex_below_comment :
    lex "x//".toList = .ok [⟨.identifier, ['x'], 0, 1⟩] ∧
      lex ("x//".toList ++ '\n' :: "=".toList) =
        .ok [⟨.identifier, ['x'], 0, 1⟩, ⟨.operator, ['='], 4, 5⟩] ∧
      lex ("x//".toList ++ '\n' :: "\n ''".toList) =
        .error ⟨.badCharLiteral "''".toList, 3, 2⟩ := by
  have hupper : lex "x//".toList = .ok [⟨.identifier, ['x'], 0, 1⟩] := by decide +kernel
  have hlower : lex "=".toList = .ok [⟨.operator, ['='], 0, 1⟩] := by decide +kernel
  have herror : lex "\n ''".toList = .error ⟨.badCharLiteral "''".toList, 2, 2⟩ := by
    decide +kernel
  exact ⟨hupper, (lex_append_newline hupper).1 _ hlower, (lex_append_newline hupper).2 _ herror⟩

end DeclLang
