import DeclLang.Proofs.LiteralToken
import DeclLang.Proofs.RoundTrip

/-!
# Tokens as expressions

The syntax phase knows no literals. It divides a text at every semicolon and takes what stands
behind the equals sign as it is. So a declaration whose expression is one token without marks of
comments is read back just when there is no semicolon in the token, and the only literals that
cannot be the value of a variable are strings and characters with a semicolon between their quotes.
-/

namespace DeclLang

variable {w : Text} {t : Token} {d : Declaration}

/-- A single token is a lexeme of its kind. -/
theorem Token.form_of_lex (h : lex w = .ok [t]) (hw : t.lexeme = w) : Form t.kind w :=
  (isRead_of_lex h hw).form

/-- Without the marks that open comments a text has none. -/
theorem Comment.isFree_of_not_infix (hline : ¬ ['/', '/'] <:+: w) (hblock : ¬ ['/', '*'] <:+: w) :
    IsFree w := by
  apply isFree_iff.2
  refine ⟨hline, ?_⟩
  intro a b hw
  have hopen : ['/', '*'] <:+: w := ⟨a, b, by simp [hw]⟩
  exact absurd hopen hblock

namespace Declaration

/-- One declaration that can be written makes no comment. -/
theorem IsRenderable.areRenderable_singleton (h : d.IsRenderable) : AreRenderable [d] :=
  ⟨by simpa using h, List.pairwise_singleton _ _⟩

/-- A declaration that can be written is read back from its own statement. -/
theorem IsRenderable.parse_render_self (h : d.IsRenderable) :
    parse d.render = .ok (Tree.ofDeclarations [d]) := by
  have hline : DeclLang.render [d] = d.render ++ ['\n'] := by simp [DeclLang.render]
  have hfree : Comment.IsFree d.render := by
    apply (isFree_render h.areRenderable_singleton).of_isInfix
    rw [hline]
    exact (List.prefix_append _ _).isInfix
  have hstatement : d.render = d.statement ++ ';' :: [] := by
    simp [render, statement, opening]
  have hsplit : Statement.split d.render = [d.statement] := by
    rw [Statement.split_eq_splitPlain, Comment.strip_of_isFree hfree, hstatement,
      Statement.splitPlain_append, h.splitPlain_statement]
    rfl
  apply parse_eq_ok_iff.2
  refine ⟨[d], ?_, rfl⟩
  rw [hsplit]
  exact .cons h.read_statement .nil

/-- A declaration whose expression is one token can be written if the token holds no semicolon and
no mark of a comment. -/
theorem isRenderable_of_token (htype : Word.isTypeName d.typeName)
    (hidentifier : Word.isIdentifier d.identifier) (hform : Token.Form t.kind d.expression)
    (hsemicolon : ';' ∉ d.expression) (hfree : Comment.IsFree d.expression) :
    d.IsRenderable := by
  have htrim : Text.trim d.expression = d.expression :=
    Text.trim_eq_self (fun c hc => (hform.isEdge (.inl hc)).1)
      (fun c hc => (hform.isEdge (.inr hc)).1)
  exact isRenderable_iff.2 ⟨htype, hidentifier, hform.ne_nil, htrim, hsemicolon, hfree⟩

end Declaration

/-- A declaration whose expression is a single token without marks of comments is read back from
its statement just when there is no semicolon in the token. -/
theorem parse_render_token_iff (htype : Word.isTypeName d.typeName)
    (hidentifier : Word.isIdentifier d.identifier)
    (hlex : lex d.expression = .ok [t]) (hlexeme : t.lexeme = d.expression)
    (hline : ¬ ['/', '/'] <:+: d.expression) (hblock : ¬ ['/', '*'] <:+: d.expression) :
    parse d.render = .ok (Tree.ofDeclarations [d]) ↔ ';' ∉ d.expression := by
  constructor
  · intro hparse
    have hwritten := (areRenderable_of_parse hparse).each
    rw [Tree.declarations_ofDeclarations] at hwritten
    exact (hwritten d (List.mem_singleton_self d)).semicolon
  · intro hsemicolon
    have hfree := Comment.isFree_of_not_infix hline hblock
    have hform := Token.form_of_lex hlex hlexeme
    have hd := Declaration.isRenderable_of_token htype hidentifier hform hsemicolon hfree
    exact hd.parse_render_self

/-- Signs of equality, escaped quotes, blanks and the closing mark of a comment between quotes. -/
theorem parse_render_token_iff_signs :
    lex "\"a = \\\"b\\\" */ 'c'\"".toList =
        .ok [⟨.string, "\"a = \\\"b\\\" */ 'c'\"".toList, 0, 18⟩] ∧
      parse "String _s1 = \"a = \\\"b\\\" */ 'c'\";".toList = .ok (Tree.ofDeclarations
        [⟨"String".toList, "_s1".toList, "\"a = \\\"b\\\" */ 'c'\"".toList⟩]) := by
  have hlex : lex "\"a = \\\"b\\\" */ 'c'\"".toList =
      .ok [⟨.string, "\"a = \\\"b\\\" */ 'c'\"".toList, 0, 18⟩] := by decide +kernel
  have hparse := parse_render_token_iff
    (d := ⟨"String".toList, "_s1".toList, "\"a = \\\"b\\\" */ 'c'\"".toList⟩)
    (by decide) (by decide) hlex rfl (by decide) (by decide)
  exact ⟨hlex, hparse.2 (by decide)⟩

/-- The syntax phase cuts a string at the semicolon between its quotes. -/
theorem parse_cuts_quoted_semicolon :
    lex "\";\"".toList = .ok [⟨.string, "\";\"".toList, 0, 3⟩] ∧
      ¬ ['/', '/'] <:+: "\";\"".toList ∧ ¬ ['/', '*'] <:+: "\";\"".toList ∧
      Declaration.render ⟨"String".toList, ['s'], "\";\"".toList⟩ = "String s = \";\";".toList ∧
      parse "String s = \";\";".toList = .error (.invalidStatement ['"']) := by
  have hparse : parseDeclarations "String s = \";\";".toList = .error (.invalidStatement ['"']) := by
    decide +kernel
  refine ⟨by decide +kernel, by decide, by decide, by decide, ?_⟩
  rw [parse, hparse]
  rfl

end DeclLang
