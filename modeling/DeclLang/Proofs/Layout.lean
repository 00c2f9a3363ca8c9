import DeclLang.Proofs.PlainReading

/-!
# Layout

Between two lexemes it does not matter which blanks and closed block comments stand there, as long
as something does. A lexeme is read again in front of any separator, because a separator starts with
a blank or a slash and neither can continue a lexeme; and a separator consists of trivia whatever
text follows it, because a block comment ends with its own closing mark. Line comments are left out:
they would take along the lexeme behind them.
-/

namespace DeclLang

/-- Blanks and closed block comments, one behind the other. -/
inductive IsLayout : Text → Prop
  | nil : IsLayout []
  | blank {c : Char} {w : Text} : Text.isBlank c → IsLayout w → IsLayout (c :: w)
  | block {body w : Text} : ¬ ['*', '/'] <:+: body → IsLayout w →
      IsLayout ('/' :: '*' :: (body ++ ['*', '/']) ++ w)

namespace IsLayout

variable {w : Text}

/-- A layout is read as trivia in front of any text. -/
theorem exists_reading (h : IsLayout w) :
    ∃ r : Reading, r.text = w ∧ r.spellings = [] ∧ ∀ rest, r.IsReadBefore rest := by
  induction h with
  | nil => exact ⟨[], rfl, rfl, fun _ => trivial⟩
  | @blank c w hc _ ih =>
    obtain ⟨r, htext, hspellings, hr⟩ := ih
    refine ⟨.blank c :: r, ?_, hspellings, fun rest => ⟨hc, hr rest⟩⟩
    rw [Reading.text_cons, htext]
    rfl
  | @block body w hbody _ ih =>
    obtain ⟨r, htext, hspellings, hr⟩ := ih
    refine ⟨.comment ('/' :: '*' :: (body ++ ['*', '/'])) :: r, ?_, hspellings, fun rest => ?_⟩
    · rw [Reading.text_cons, htext]
      rfl
    · exact ⟨Comment.front?_block hbody (r.text ++ rest), hr rest⟩

/-- Behind a lexeme a layout that is not empty breaks like any other text. -/
theorem breaksLike (h : IsLayout w) (hne : w ≠ []) (s t : Text) : (w ++ t).BreaksLike s := by
  right
  intro c hc
  cases h with
  | nil => contradiction
  | blank hblank =>
    obtain rfl := Option.some.inj hc
    exact Text.not_isSolid_of_isBlank hblank
  | block =>
    obtain rfl := Option.some.inj hc
    decide

end IsLayout

/-- Lexemes with a separator behind each but the last. Lexemes that are left when there is no more
separator stand side by side. -/
def spaced : List Text → List Text → Text
  | w :: lexemes, separator :: separators => w ++ (separator ++ spaced lexemes separators)
  | lexemes, _ => lexemes.flatten

namespace Reading

/-- The tokens of a reading are read as lexemes somewhere in it. -/
theorem isRead_of_mem_tokensFrom {r : Reading} {rest : Text} (hr : r.IsReadBefore rest)
    {offset : Nat} {t : Token} (h : t ∈ r.tokensFrom offset) :
    ∃ s, Token.IsRead t.kind t.lexeme s := by
  obtain ⟨r₁, r₂, rfl, -, -⟩ := exists_of_mem_tokensFrom h
  exact ⟨_, (isReadBefore_append.1 hr).2.1⟩

/-- Lexemes that are read anywhere are read again, in their order, with separators between them. -/
theorem exists_spaced {tokens : List Token}
    (htokens : ∀ t ∈ tokens, ∃ s, Token.IsRead t.kind t.lexeme s) {separators : List Text}
    (hlength : separators.length = tokens.length - 1)
    (hlayout : ∀ w ∈ separators, w ≠ [] ∧ IsLayout w) :
    ∃ r : Reading, r.text = spaced (tokens.map Token.lexeme) separators ∧
      r.spellings = tokens.map Token.spelling ∧ r.IsReadBefore [] := by
  induction tokens generalizing separators with
  | nil =>
    obtain rfl := List.eq_nil_of_length_eq_zero hlength
    exact ⟨[], rfl, rfl, trivial⟩
  | cons t tokens ih =>
    obtain ⟨⟨s, ht⟩, hlater⟩ := List.forall_mem_cons.1 htokens
    cases separators with
    | nil =>
      obtain rfl := List.eq_nil_of_length_eq_zero hlength.symm
      have hend : Token.IsRead t.kind t.lexeme [] := ht.of_breaksLike (Text.nil_breaksLike s)
      exact ⟨[.token t.kind t.lexeme], rfl, rfl, hend, trivial⟩
    | cons w separators =>
      obtain ⟨⟨hne, hw⟩, hrest⟩ := List.forall_mem_cons.1 hlayout
      simp only [List.length_cons, Nat.add_sub_cancel] at hlength
      obtain ⟨r, htext, hspellings, hr⟩ := ih hlater (by omega) hrest
      obtain ⟨trivia, htrivia, hnone, hread⟩ := hw.exists_reading
      have hfirst : Token.IsRead t.kind t.lexeme (w ++ r.text) :=
        ht.of_breaksLike (hw.breaksLike hne s r.text)
      refine ⟨.token t.kind t.lexeme :: (trivia ++ r), ?_, ?_, ?_, ?_⟩
      · rw [text_cons, text_append, htrivia, htext]
        rfl
      · rw [spellings_cons, spellings_append, hnone, hspellings]
        rfl
      · rw [text_append, htrivia, List.append_nil]
        exact hfirst
      · exact isReadBefore_append.2 ⟨hread _, hr⟩

end Reading

/-- Layout between tokens is irrelevant. Whatever blanks and closed block comments are written
between the lexemes of a source, the text that this makes has tokens of the same kinds with the same
lexemes. -/
theorem lex_spaced {source : Text} {tokens : List Token} {separators : List Text}
    (h : lex source = .ok tokens) (hlength : separators.length = tokens.length - 1)
    (hlayout : ∀ w ∈ separators, w ≠ [] ∧ IsLayout w) :
    ∃ tokens', lex (spaced (tokens.map Token.lexeme) separators) = .ok tokens' ∧
      tokens'.map Token.spelling = tokens.map Token.spelling := by
  obtain ⟨r, rfl, hr, rfl⟩ := lex_eq_ok_iff.1 h
  obtain ⟨r', htext, hspellings, hr'⟩ :=
    Reading.exists_spaced (fun _ => Reading.isRead_of_mem_tokensFrom hr) hlength hlayout
  refine ⟨r'.tokensFrom 0, ?_, ?_⟩
  · rw [← htext]
    exact Reading.lex_text hr'
  · rw [Reading.map_spelling_tokensFrom, hspellings]

/-- A quote, the mark of a line comment and the opening of another comment mean nothing in the
comments between the lexemes, and a number keeps its point in front of one. -/
theorem lex_spaced_number :
    lex "-1.=x".toList =
        .ok [⟨.number, "-1.".toList, 0, 3⟩, ⟨.operator, ['='], 3, 4⟩, ⟨.identifier, ['x'], 4, 5⟩] ∧
      ∃ tokens, lex "-1./*\"//*/=\u2003/*/*'**/x".toList = .ok tokens ∧
        tokens.map Token.spelling =
          [⟨.number, "-1.".toList⟩, ⟨.operator, ['=']⟩, ⟨.identifier, ['x']⟩] := by
  have hlex : lex "-1.=x".toList =
      .ok [⟨.number, "-1.".toList, 0, 3⟩, ⟨.operator, ['='], 3, 4⟩,
        ⟨.identifier, ['x'], 4, 5⟩] := by decide +kernel
  have hquote : ¬ ['*', '/'] <:+: "\"//".toList := by decide
  have hopening : ¬ ['*', '/'] <:+: "/*'*".toList := by decide
  have hlayout : ∀ w ∈ ["/*\"//*/".toList, "\u2003/*/*'**/".toList], w ≠ [] ∧ IsLayout w := by
    rw [List.forall_mem_cons, List.forall_mem_singleton]
    exact ⟨⟨by decide, .block hquote .nil⟩, by decide, .blank (by decide) (.block hopening .nil)⟩
  exact ⟨hlex, lex_spaced hlex (by decide) hlayout⟩

end DeclLang
