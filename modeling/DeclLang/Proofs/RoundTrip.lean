import DeclLang.Proofs.CommentFree
import DeclLang.Proofs.StatementSplit

/-!
# Rendering and parsing

Declarations written one to a line are read back as they were, as long as each of them can be
written as one statement and the text between them makes no comment. Whatever the syntax phase reads
has these properties: what is left of a source without comments holds none, so a `/*` that was never
closed cannot be closed by a later declaration either. Hence reading, writing and reading again
gives the same tree.
-/

namespace DeclLang

namespace Word

/-- The name of a type has the shape of an identifier. -/
theorem isIdentifier_typeName (type : PrimitiveType) : isIdentifier type.name.toList := by
  cases type <;> decide

/-- No mark of a comment and no semicolon is part of a word. -/
theorem ne_mark_of_mem {w : Text} (h : isIdentifier w) {c : Char} (hc : c ∈ w) :
    c ≠ '/' ∧ c ≠ '*' ∧ c ≠ ';' :=
  forall_isPart (P := fun c => c ≠ '/' ∧ c ≠ '*' ∧ c ≠ ';') (by decide)
    (isPart_of_isIdentifier h c hc)

end Word

namespace Declaration

/-- A declaration that can be written as one statement without comments. -/
structure IsRenderable (d : Declaration) : Prop where
  typeName : ∃ type : PrimitiveType, d.typeName = type.name.toList
  identifier : Word.isIdentifier d.identifier
  expression_ne_nil : d.expression ≠ []
  /-- There are no blanks at the front of the expression. -/
  head : ∀ c ∈ d.expression.head?, Text.isBlank c = false
  /-- There are no blanks at the end of the expression. -/
  last : ∀ c ∈ d.expression.getLast?, Text.isBlank c = false
  semicolon : ';' ∉ d.expression
  /-- The expression has no line comment. -/
  line : ¬ ['/', '/'] <:+: d.expression
  /-- No block comment that the expression opens is closed in it. -/
  block : ∀ a b, d.expression = a ++ '/' :: '*' :: b → ¬ ['*', '/'] <:+: b

/-- A declaration as far as its expression. -/
def opening (d : Declaration) : Text := d.typeName ++ ' ' :: d.identifier ++ [' ', '=', ' ']

/-- A declaration as a statement without its semicolon. -/
def statement (d : Declaration) : Text := d.opening ++ d.expression

/-- Declarations that can be written one to a line without comments. -/
structure AreRenderable (ds : List Declaration) : Prop where
  each : ∀ d ∈ ds, d.IsRenderable
  /-- No block comment that an expression opens is closed in a later one. -/
  later : ds.Pairwise fun d e => ['/', '*'] <:+: d.expression → ¬ ['*', '/'] <:+: e.expression

variable {d : Declaration} {ds : List Declaration}

/-- There is no mark of a comment and no semicolon in front of an expression. -/
theorem IsRenderable.ne_mark_of_mem_opening (h : d.IsRenderable) {c : Char} (hc : c ∈ d.opening) :
    c ≠ '/' ∧ c ≠ '*' ∧ c ≠ ';' := by
  obtain ⟨type, htype⟩ := h.typeName
  simp only [opening, List.mem_append, List.mem_cons, List.not_mem_nil, or_false] at hc
  rcases hc with (hc | rfl | hc) | rfl | rfl | rfl
  · exact Word.ne_mark_of_mem (Word.isIdentifier_typeName type) (htype ▸ hc)
  · decide
  · exact Word.ne_mark_of_mem h.identifier hc
  all_goals decide

/-- The expression of a declaration that can be written makes no comment. -/
theorem IsRenderable.isFree (h : d.IsRenderable) : Comment.IsFree d.expression :=
  Comment.isFree_iff.2 ⟨h.line, h.block⟩

/-- A declaration can be written just when its words are a type and an identifier, and its
expression is trimmed, holds no semicolon and makes no comment. -/
theorem isRenderable_iff :
    d.IsRenderable ↔ Word.isTypeName d.typeName ∧ Word.isIdentifier d.identifier ∧
      d.expression ≠ [] ∧ Text.trim d.expression = d.expression ∧ ';' ∉ d.expression ∧
      Comment.IsFree d.expression := by
  rw [Word.isTypeName_iff]
  constructor
  · intro h
    exact ⟨h.typeName, h.identifier, h.expression_ne_nil, Text.trim_eq_self h.head h.last,
      h.semicolon, h.isFree⟩
  · rintro ⟨htype, hidentifier, hne, htrim, hsemicolon, hfree⟩
    obtain ⟨hline, hblock⟩ := Comment.isFree_iff.1 hfree
    have hhead := Text.head?_trim (s := d.expression)
    have hlast := Statement.endsSolid_trim d.expression
    rw [htrim] at hhead hlast
    exact ⟨htype, hidentifier, hne, hhead, hlast, hsemicolon, hline, hblock⟩

instance (d : Declaration) : Decidable d.IsRenderable := decidable_of_iff' _ isRenderable_iff

instance (ds : List Declaration) : Decidable (AreRenderable ds) :=
  decidable_of_iff ((∀ d ∈ ds, d.IsRenderable) ∧
      ds.Pairwise fun d e => ['/', '*'] <:+: d.expression → ¬ ['*', '/'] <:+: e.expression)
    ⟨fun h => ⟨h.1, h.2⟩, fun h => ⟨h.each, h.later⟩⟩

/-- A declaration that can be written is read back. -/
theorem IsRenderable.read_statement (h : d.IsRenderable) : Statement.read d.statement = .ok d := by
  refine Statement.read_eq_ok_iff.2
    ⟨⟨d.typeName, [' '], d.identifier, [' '], [' '], d.expression⟩, ⟨?_, ?_⟩, rfl⟩
  · simp [Statement.Shape.text, Statement.Shape.afterType, Statement.Shape.afterIdentifier,
      statement, opening]
  · have hblank : ∀ c ∈ [' '], Text.isBlank c := fun c hc => List.mem_singleton.1 hc ▸ rfl
    exact
      { gap_ne_nil := by simp
        gap := hblank
        beforeSign := hblank
        afterSign := hblank
        expression_ne_nil := h.expression_ne_nil
        expression := h.head
        typeName := h.typeName
        identifier := h.identifier }

/-- A declaration that can be written is one statement. -/
theorem IsRenderable.splitPlain_statement (h : d.IsRenderable) :
    Statement.splitPlain d.statement = [d.statement] := by
  obtain ⟨type, htype⟩ := h.typeName
  obtain ⟨first, rest, hfirst, hstart, -⟩ :=
    Word.isIdentifier_iff.1 (Word.isIdentifier_typeName type)
  have hcons : d.statement = first :: (rest ++ ' ' :: d.identifier ++ [' ', '=', ' '] ++
      d.expression) := by
    simp [statement, opening, htype, hfirst]
  have hsemicolon : ';' ∉ d.statement := fun hmem =>
    (List.mem_append.1 hmem).elim (fun hmem => (h.ne_mark_of_mem_opening hmem).2.2 rfl)
      h.semicolon
  refine Statement.splitPlain_eq_singleton hsemicolon (by simp [hcons]) (Text.trim_eq_self ?_ ?_)
  · rw [hcons]
    rintro c ⟨⟩
    exact (Word.isSolid_of_isPart (Word.isPart_of_isStart hstart)).1
  · rw [statement, List.getLast?_append_of_ne_nil _ h.expression_ne_nil]
    exact h.last

end Declaration

open Declaration

variable {d : Declaration} {ds : List Declaration}

/-- The first declaration is written in front of the others. -/
theorem render_cons (d : Declaration) (ds : List Declaration) :
    render (d :: ds) = d.opening ++ (d.expression ++ ([';', '\n'] ++ render ds)) := by
  simp [render, Declaration.render, opening]

/-- Only an expression holds the closing mark of a block comment. -/
theorem exists_close_of_render (h : ∀ d ∈ ds, d.IsRenderable)
    (hclose : ['*', '/'] <:+: render ds) : ∃ d ∈ ds, ['*', '/'] <:+: d.expression := by
  induction ds with
  | nil => simp [render] at hclose
  | cons d ds ih =>
    obtain ⟨hd, hds⟩ := List.forall_mem_cons.1 h
    rw [render_cons] at hclose
    have hvalue := Text.pair_infix_of_notMem
      (fun hmem => (hd.ne_mark_of_mem_opening hmem).2.1 rfl) hclose
    rcases Text.pair_infix_append hvalue (by simp) with hexpression | hrest
    · exact ⟨d, List.mem_cons_self, hexpression⟩
    · obtain ⟨e, he, hinside⟩ := ih hds (Text.pair_infix_of_notMem (by decide) hrest)
      exact ⟨e, List.mem_cons_of_mem _ he, hinside⟩

/-- Declarations that can be written make no comment. -/
theorem isFree_render (h : AreRenderable ds) : Comment.IsFree (render ds) := by
  induction ds with
  | nil => exact Comment.isFree_nil
  | cons d ds ih =>
    obtain ⟨hd, hds⟩ := List.forall_mem_cons.1 h.each
    obtain ⟨hlater, hpairs⟩ := List.pairwise_cons.1 h.later
    have hrest : Comment.IsFree ([';', '\n'] ++ render ds) :=
      Comment.isFree_append_of_notMem (by decide) (ih ⟨hds, hpairs⟩)
    rw [render_cons]
    refine Comment.isFree_append_of_notMem
      (fun hmem => (hd.ne_mark_of_mem_opening hmem).1 rfl) ?_
    -- what the expression opens could only be closed by the expression of a later declaration
    refine hd.isFree.append hrest (by simp) (by simp) fun hopen hclose => ?_
    obtain ⟨e, he, hinside⟩ := exists_close_of_render hds
      (Text.pair_infix_of_notMem (by decide) hclose)
    exact hlater e he hopen hinside

/-- The statements of the text that declarations are written to are theirs. -/
theorem splitPlain_render (h : ∀ d ∈ ds, d.IsRenderable) :
    Statement.splitPlain (render ds) = ds.map statement := by
  induction ds with
  | nil => decide
  | cons d ds ih =>
    obtain ⟨hd, hds⟩ := List.forall_mem_cons.1 h
    have hcons : render (d :: ds) = d.statement ++ ';' :: '\n' :: render ds := by
      simp [render_cons, statement]
    rw [hcons, Statement.splitPlain_append, hd.splitPlain_statement,
      Statement.splitPlain_cons (by decide), ih hds]
    rfl

/-- Declarations that can be written are read back. -/
theorem parse_render (h : AreRenderable ds) :
    parse (render ds) = .ok (Tree.ofDeclarations ds) := by
  refine parse_eq_ok_iff.2 ⟨ds, ?_, rfl⟩
  rw [Statement.split_eq_splitPlain, Comment.strip_of_isFree (isFree_render h),
    splitPlain_render h.each, List.forall₂_map_left_iff]
  exact List.forall₂_same.2 fun d hd => (h.each d hd).read_statement

/-- A statement ends with the expression of its declaration. -/
theorem Statement.expression_isSuffix {s : Text} (h : read s = .ok d) : d.expression <:+ s := by
  obtain ⟨shape, ⟨rfl, -⟩, rfl⟩ := read_eq_ok_iff.1 h
  refine ⟨shape.typeName ++ shape.gap ++ shape.identifier ++ shape.beforeSign ++
    '=' :: shape.afterSign, ?_⟩
  simp [Shape.text, Shape.afterType, Shape.afterIdentifier, Shape.declaration]

/-- What a statement declares can be written if the statement makes no comment. -/
theorem Statement.isRenderable_of_read {s : Text} (h : read s = .ok d) (hfree : Comment.IsFree s)
    (hsemicolon : ';' ∉ s) (hlast : EndsSolid s) : d.IsRenderable := by
  have hsuffix := expression_isSuffix h
  have hexpression : ';' ∉ d.expression := fun hmem => hsemicolon (hsuffix.subset hmem)
  obtain ⟨hline, hblock⟩ := Comment.isFree_iff.1 (hfree.of_isInfix hsuffix.isInfix)
  obtain ⟨shape, ⟨rfl, hshape⟩, rfl⟩ := read_eq_ok_iff.1 h
  obtain ⟨front, hfront⟩ := hsuffix
  exact
    { typeName := hshape.typeName
      identifier := hshape.identifier
      expression_ne_nil := hshape.expression_ne_nil
      head := hshape.expression
      last := EndsSolid.of_append (w := front) (hfront ▸ hlast)
      semicolon := hexpression
      line := hline
      block := hblock }

/-- In a text without comments no closing mark is behind an opening mark. -/
theorem Comment.IsFree.not_holdsInOrder {s : Text} (h : IsFree s) :
    ¬ s.HoldsInOrder ['/', '*'] ['*', '/'] := by
  rintro ⟨a, b, rfl, ⟨u, v, rfl⟩, hclose⟩
  exact (isFree_iff.1 h).2 u (v ++ b) (by simp) (hclose.trans List.infix_append_right)

/-- What a source declares can be written. -/
theorem areRenderable_of_parse {source : Text} {tree : Tree} (h : parse source = .ok tree) :
    AreRenderable tree.declarations := by
  have hfree := Comment.isFree_strip source
  constructor
  · intro d hd
    obtain ⟨statement, hmem, hread⟩ := exists_read_of_mem_declarations h hd
    obtain ⟨hinside, hsemicolon, hlast⟩ := Statement.of_mem_splitPlain hmem
    exact Statement.isRenderable_of_read hread (hfree.of_isInfix hinside) hsemicolon hlast
  · obtain ⟨ds, hds, rfl⟩ := parse_eq_ok_iff.1 h
    obtain ⟨hlength, hread⟩ := List.forall₂_iff_get.1 hds
    have hpairs := List.pairwise_iff_getElem.1
      (Statement.pairwise_splitPlain (Comment.strip source))
    rw [Tree.declarations_ofDeclarations, List.pairwise_iff_getElem]
    intro i j hi hj hij hopen hclose
    have hparts (k : ℕ) (hk : k < ds.length) :
        ds[k].expression <:+: (Statement.split source)[k] :=
      (Statement.expression_isSuffix (hread k (hlength ▸ hk) hk)).isInfix
    -- statements, and so their expressions, lie in the stripped text in their order
    have horder := hpairs i j (hlength ▸ hi) (hlength ▸ hj) hij
    exact hfree.not_holdsInOrder
      (horder.mono (hopen.trans (hparts i hi)) (hclose.trans (hparts j hj)))

/-- Rendering and parsing undo each other. Declarations that can be written are read back as they
were, whatever a source declares can be written, and reading that again gives the same tree. -/
theorem parse_inverts_render :
    (∀ ds, AreRenderable ds → parse (render ds) = .ok (Tree.ofDeclarations ds)) ∧
    ∀ source tree, parse source = .ok tree →
      AreRenderable tree.declarations ∧ parse (render tree.declarations) = parse source := by
  refine ⟨fun ds => parse_render, fun source tree h => ⟨areRenderable_of_parse h, ?_⟩⟩
  obtain ⟨ds, -, rfl⟩ := parse_eq_ok_iff.1 h
  have hrender := parse_render (areRenderable_of_parse h)
  rw [Tree.declarations_ofDeclarations] at hrender ⊢
  rw [hrender, h]

/-- Marks that make no comment stay in their expressions. -/
theorem parse_rendered_stray_marks :
    parse "int a = */;\nint b = /* c;\n".toList = .ok (Tree.ofDeclarations
        [⟨"int".toList, ['a'], "*/".toList⟩, ⟨"int".toList, ['b'], "/* c".toList⟩]) ∧
      parse "int a = */;\nint b = /* c;\n".toList = parse "int a=*/;int/**/b=/* c".toList := by
  have hds : parseDeclarations "int a=*/;int/**/b=/* c".toList =
      .ok [⟨"int".toList, ['a'], "*/".toList⟩, ⟨"int".toList, ['b'], "/* c".toList⟩] := by
    decide +kernel
  have hparse : parse "int a=*/;int/**/b=/* c".toList = .ok (Tree.ofDeclarations
      [⟨"int".toList, ['a'], "*/".toList⟩, ⟨"int".toList, ['b'], "/* c".toList⟩]) := by
    rw [parse, hds]
    rfl
  have hrenderable : AreRenderable
      [⟨"int".toList, ['a'], "*/".toList⟩, ⟨"int".toList, ['b'], "/* c".toList⟩] := by
    decide +kernel
  obtain ⟨hwritten, hread⟩ := parse_inverts_render
  exact ⟨hwritten _ hrenderable, (hread _ _ hparse).2⟩

end DeclLang
