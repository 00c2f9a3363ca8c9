import DeclLang.Proofs.Pieces
import DeclLang.Proofs.PlainReading
import DeclLang.Proofs.StatementGrammar

/-!
# Statements and tokens

The syntax phase does not look at tokens, and the lexical phase knows nothing of statements. Where
no literal holds a semicolon or a comment mark they agree all the same: the statements of a source
are the pieces of its tokens between semicolons, and a statement makes a declaration just when
its tokens are a type, a word, the sign of equality and at least one more.
-/

namespace DeclLang

namespace Word

/-- The kinds of words. -/
def kinds : List Token.Kind := [.identifier, .keyword, .boolean]

/-- A word has one of the kinds of words. -/
theorem kind_mem_kinds (word : Text) : kind word ∈ kinds := by
  unfold kind
  split_ifs <;> decide

/-- A word of the kind of keywords is the name of a type. -/
theorem isTypeName_of_kind {word : Text} (h : kind word = .keyword) : isTypeName word := by
  unfold kind at h
  split_ifs at h with hboolean hreserved
  simpa [isReserved, hboolean] using hreserved

end Word

/-- Two words do not touch. -/
theorem Token.IsRead.ne_nil_of_word {kind : Kind} {w gap word s : Text}
    (h : IsRead kind w (gap ++ (word ++ s))) (hw : Word.isIdentifier w)
    (hword : Word.isIdentifier word) : gap ≠ [] := by
  rintro rfl
  obtain ⟨c, rest, rfl, hc, -⟩ := Word.isIdentifier_iff.1 hword
  have hend := (h.head?_of_word hw).2 c rfl
  rw [Word.isPart_of_isStart hc] at hend
  contradiction

/-- Only words have the kinds of words. -/
theorem Token.Form.isIdentifier {kind : Kind} {w : Text} (h : Form kind w)
    (hkind : kind ∈ Word.kinds) : Word.isIdentifier w ∧ kind = Word.kind w := by
  cases h with
  | word h => exact ⟨h, rfl⟩
  | literal hquote => rcases hquote with ⟨rfl, -⟩ | ⟨rfl, -⟩ <;> simp [Word.kinds] at hkind
  | number | operator | punctuation => simp [Word.kinds] at hkind

namespace Spelling

/-- The tokens of a declaration: a type, a word, the sign of equality and at least one more. -/
def IsDeclaration : List Spelling → Prop
  | type :: word :: sign :: _ :: _ =>
    type.kind = .keyword ∧ word.kind ∈ Word.kinds ∧ sign.lexeme = ['=']
  | _ => False

/-- The tokens of a declaration, one by one. -/
theorem isDeclaration_iff {piece : List Spelling} :
    IsDeclaration piece ↔ ∃ type word sign first later,
      piece = type :: word :: sign :: first :: later ∧
        type.kind = .keyword ∧ word.kind ∈ Word.kinds ∧ sign.lexeme = ['='] := by
  constructor
  · intro h
    unfold IsDeclaration at h
    split at h
    · exact ⟨_, _, _, _, _, rfl, h⟩
    · contradiction
  · rintro ⟨_, _, _, _, _, rfl, h⟩
    exact h

/-- Tokens make a declaration that holds the first two as its type and its identifier, and whose
expression has the tokens behind the third. -/
def Makes (piece : List Spelling) (d : Declaration) : Prop :=
  ∃ type word sign value, piece = type :: word :: sign :: value ∧
    d.typeName = type.lexeme ∧ d.identifier = word.lexeme ∧
      ∃ tokens, lex d.expression = .ok tokens ∧ tokens.map Token.spelling = value

end Spelling

/-- The type of a declaration is read as a keyword. -/
theorem Statement.Shape.IsDeclaration.isRead_typeName {shape : Statement.Shape}
    (h : shape.IsDeclaration) : Token.IsRead .keyword shape.typeName shape.afterType := by
  obtain ⟨type, htype⟩ := h.typeName
  have hname : Word.isIdentifier type.name.toList ∧ Word.kind type.name.toList = .keyword := by
    cases type <;> decide
  rw [htype, ← hname.2]
  exact Token.isRead_word hname.1 fun c hc =>
    Word.isPart_eq_false_of_isBlank (h.head?_afterType c hc)

/-- The identifier of a declaration is read as a word. -/
theorem Statement.Shape.IsDeclaration.isRead_identifier {shape : Statement.Shape}
    (h : shape.IsDeclaration) :
    Token.IsRead (Word.kind shape.identifier) shape.identifier shape.afterIdentifier := by
  apply Token.isRead_word h.identifier
  intro c hc
  rcases Statement.isInside_eq_false_iff.1 (h.head?_afterIdentifier c hc) with hblank | rfl
  · exact Word.isPart_eq_false_of_isBlank hblank
  · decide

namespace Reading

open Statement (Shape)

/-- The parts of a declaration are its tokens. -/
theorem IsPlain.spellings_of_isOf {r : Reading} (h : r.IsPlain) {shape : Shape}
    (hshape : shape.IsOf r.text) :
    Spelling.IsDeclaration r.spellings ∧ Spelling.Makes r.spellings shape.declaration := by
  obtain ⟨htext, hdeclaration⟩ := hshape
  have htext₀ : r.text = [] ++ (shape.typeName ++ shape.afterType) := htext.symm
  obtain ⟨r₁, htext₁, hspellings, hr₁⟩ :=
    h.exists_of_text htext₀ (by simp) hdeclaration.isRead_typeName
  obtain ⟨r₂, htext₂, hspellings₁, hr₂⟩ := hr₁.exists_of_text htext₁ hdeclaration.gap
    hdeclaration.isRead_identifier
  obtain ⟨r₃, htext₃, hspellings₂, hr₃⟩ := hr₂.exists_of_text htext₂ hdeclaration.beforeSign
    (Token.isRead_operator (shape.afterSign ++ shape.expression))
  obtain ⟨r₄, htext₄, hspellings₃, hr₄⟩ := hr₃.exists_trimLeft
  rw [htext₃, Text.trimLeft_append_eq hdeclaration.afterSign hdeclaration.expression] at htext₄
  have hne : r₄.spellings ≠ [] := by
    rw [ne_eq, hr₄.spellings_eq_nil_iff (htext₄ ▸ hdeclaration.expression), htext₄]
    exact hdeclaration.expression_ne_nil
  have hlex := lex_text hr₄.isReadBefore
  rw [htext₄] at hlex
  rw [hspellings, hspellings₁, hspellings₂, ← hspellings₃]
  refine ⟨?_, _, _, _, _, rfl, rfl, rfl, _, hlex, map_spelling_tokensFrom r₄ 0⟩
  obtain ⟨first, later, hfirst⟩ := List.exists_cons_of_ne_nil hne
  rw [hfirst]
  exact ⟨rfl, Word.kind_mem_kinds _, rfl⟩

/-- The tokens of a declaration are its parts. -/
theorem IsPlain.exists_isOf {r : Reading} (h : r.IsPlain)
    (hhead : ∀ c ∈ r.text.head?, Text.isBlank c = false)
    (hspellings : Spelling.IsDeclaration r.spellings) : ∃ shape : Shape, shape.IsOf r.text := by
  obtain ⟨type, word, sign, first, later, hpiece, hkeyword, hkind, hsign⟩ :=
    Spelling.isDeclaration_iff.1 hspellings
  obtain ⟨blanks, r₁, htext, hblanks, htype, hspellings₁, hr₁⟩ := h.exists_of_spellings hpiece
  obtain ⟨gap, r₂, htext₁, hgap, hword, hspellings₂, hr₂⟩ := hr₁.exists_of_spellings hspellings₁
  obtain ⟨before, r₃, htext₂, hbefore, -, hspellings₃, hr₃⟩ := hr₂.exists_of_spellings hspellings₂
  obtain ⟨after, r₄, htext₃, hafter, hfirst, -, -⟩ := hr₃.exists_of_spellings hspellings₃
  obtain ⟨htypeWord, htypeKind⟩ := htype.form.isIdentifier (by rw [hkeyword]; decide)
  obtain ⟨hidentifier, -⟩ := hword.form.isIdentifier hkind
  have hnil : blanks = [] := by
    cases blanks with
    | nil => rfl
    | cons c blanks =>
      have hc := hhead c (by rw [htext]; rfl)
      simp [hblanks c List.mem_cons_self] at hc
  rw [htext₁] at htype
  have hne : gap ≠ [] := htype.ne_nil_of_word htypeWord hidentifier
  refine ⟨⟨type.lexeme, gap, word.lexeme, before, after, first.lexeme ++ r₄.text⟩, ?_, ⟨hne, hgap,
    hbefore, hafter, ?_, ?_⟩, ?_, hidentifier⟩
  · rw [htext, hnil, htext₁, htext₂, htext₃, hsign]
    rfl
  · exact List.append_ne_nil_of_left_ne_nil hfirst.form.ne_nil _
  · exact fun c hc => (hfirst.form.isEdge_head _ c hc).1
  · have hname := Word.isTypeName_of_kind (htypeKind.symm.trans hkeyword)
    obtain ⟨name, hname⟩ := Option.isSome_iff_exists.1 hname
    exact ⟨name, PrimitiveType.ofName?_eq_some.1 hname⟩

end Reading

namespace Stretch

/-- Whether a stretch is a semicolon. -/
def isSemicolon (x : Stretch) : Bool := x.text == [';']

end Stretch

namespace Token

/-- The pieces of a list of tokens between the semicolons, unless there is nothing in them. -/
def pieces (tokens : List Token) : List (List Token) :=
  (tokens.splitOnP (·.lexeme == [';'])).filter (· ≠ [])

end Token

namespace Reading

/-- Outside comments a semicolon is a token by itself, unless a literal holds it. -/
theorem IsPlain.semicolon_cases {r : Reading} (h : r.IsPlain)
    (hquiet : ∀ s ∈ spellings r, s.IsQuiet) {x : Stretch} (hmem : x ∈ r) :
    (x.isSemicolon → x.text = [';'] ∧ ∃ s, x.spellings = [s] ∧ s.lexeme = [';']) ∧
      (x.isSemicolon = false → ';' ∉ x.text ∧ ∀ s ∈ x.spellings, s.lexeme ≠ [';']) := by
  rcases h.cases_of_mem hmem with ⟨c, rfl, hblank⟩ | ⟨kind, w, rfl, hform⟩
  · have hc : c ≠ ';' := Text.ne_of_isBlank hblank (by decide)
    simp [Stretch.isSemicolon, Stretch.text, Stretch.spellings, hc, Ne.symm hc]
  · have hwhole : ';' ∈ w → w = [';'] := by
      intro hsemicolon
      by_cases hkind : kind = .string ∨ kind = .char
      · have hs : (⟨kind, w⟩ : Spelling) ∈ spellings r :=
          List.mem_flatMap.2 ⟨_, hmem, List.mem_cons_self⟩
        exact absurd hsemicolon (hquiet _ hs hkind).1
      · exact (hform.eq_semicolon (hkind ∘ .inl) (hkind ∘ .inr) hsemicolon).2
    simp only [Stretch.isSemicolon, Stretch.text, Stretch.spellings, beq_iff_eq,
      beq_eq_false_iff_ne, ne_eq]
    refine ⟨fun h => ⟨h, _, rfl, h⟩, fun h => ⟨mt hwhole h, ?_⟩⟩
    intro s hs
    rw [List.mem_singleton.1 hs]
    exact h

/-- The pieces of a plain text between semicolons are those of its reading, and so are the pieces
of its tokens. -/
theorem IsPlain.splitOnP_isSemicolon {r : Reading} (h : r.IsPlain)
    (hquiet : ∀ s ∈ spellings r, s.IsQuiet) :
    r.text.splitOn ';' = (r.splitOnP Stretch.isSemicolon).map text ∧
      (spellings r).splitOnP (·.lexeme == [';']) =
        (r.splitOnP Stretch.isSemicolon).map spellings := by
  have hcases (x : Stretch) (hx : x ∈ r) := h.semicolon_cases hquiet hx
  constructor
  · rw [List.splitOn_eq_splitOnP]
    apply splitOnP_flatMap
    · exact fun x hx hsemicolon => ⟨';', ((hcases x hx).1 hsemicolon).1, rfl⟩
    · intro x hx hother c hc
      have hne : c ≠ ';' := fun heq => ((hcases x hx).2 hother).1 (heq ▸ hc)
      simpa using hne
  · apply splitOnP_flatMap
    · intro x hx hsemicolon
      obtain ⟨-, s, hs, hlexeme⟩ := (hcases x hx).1 hsemicolon
      exact ⟨s, hs, by simp [hlexeme]⟩
    · intro x hx hother s hs
      simpa using ((hcases x hx).2 hother).2 s hs

/-- A reading that starts with no blank has a text exactly when it has tokens, so trimming plain
texts and leaving out the empty ones leaves out those without tokens. -/
theorem exists_trimmed {rs : List Reading} (h : ∀ r ∈ rs, r.IsPlain) :
    ∃ pieces : List Reading,
      (∀ piece ∈ pieces, piece.IsPlain ∧ ∀ c ∈ piece.text.head?, Text.isBlank c = false) ∧
      pieces.map text = ((rs.map text).map Text.trim).filter (· ≠ []) ∧
      pieces.map spellings = (rs.map spellings).filter (· ≠ []) := by
  induction rs with
  | nil => exact ⟨[], by simp, rfl, rfl⟩
  | cons r rs ih =>
    obtain ⟨hr, hrs⟩ := List.forall_mem_cons.1 h
    obtain ⟨pieces, hpieces, htexts, hspellings⟩ := ih hrs
    obtain ⟨piece, htext, hspelling, hpiece⟩ := hr.exists_trim
    have hhead : ∀ c ∈ piece.text.head?, Text.isBlank c = false := htext ▸ Text.head?_trim
    have hiff := hpiece.spellings_eq_nil_iff hhead
    rw [htext, hspelling] at hiff
    by_cases hnil : Text.trim r.text = []
    · refine ⟨pieces, hpieces, ?_, ?_⟩
      · simp [htexts, hnil]
      · simp [hspellings, hiff.2 hnil]
    · refine ⟨piece :: pieces, List.forall_mem_cons.2 ⟨⟨hpiece, hhead⟩, hpieces⟩, ?_, ?_⟩
      · simp [htexts, htext, hnil]
      · simp [hspellings, hspelling, mt hiff.1 hnil]

/-- The statements of a plain text are the texts of readings, and the pieces of its tokens are the
tokens of these. -/
theorem IsPlain.exists_pieces {r : Reading} (h : r.IsPlain)
    (hquiet : ∀ s ∈ spellings r, s.IsQuiet) :
    ∃ pieces : List Reading,
      (∀ piece ∈ pieces, piece.IsPlain ∧ ∀ c ∈ piece.text.head?, Text.isBlank c = false) ∧
      pieces.map text = ((r.text.splitOn ';').map Text.trim).filter (· ≠ []) ∧
      pieces.map spellings =
        ((spellings r).splitOnP (·.lexeme == [';'])).filter (· ≠ []) := by
  obtain ⟨htexts, hspellings⟩ := h.splitOnP_isSemicolon hquiet
  rw [htexts, hspellings]
  refine exists_trimmed (forall_mem_splitOnP ?_ h)
  intro first sep rest hparts
  obtain ⟨hfirst, hlater⟩ := isPlain_append hparts
  exact ⟨hfirst, (isPlain_append (r := [sep]) hlater).2⟩

/-- A statement makes a declaration exactly when its tokens are those of one, and then the
declaration is made by them. -/
theorem IsPlain.read_text {r : Reading} (h : r.IsPlain)
    (hhead : ∀ c ∈ r.text.head?, Text.isBlank c = false) :
    ((∃ d, Statement.read r.text = .ok d) ↔ Spelling.IsDeclaration r.spellings) ∧
      ∀ d, Statement.read r.text = .ok d → Spelling.Makes r.spellings d := by
  refine ⟨⟨?_, ?_⟩, ?_⟩
  · rintro ⟨d, hd⟩
    obtain ⟨shape, hshape, -⟩ := Statement.read_eq_ok_iff.1 hd
    exact (h.spellings_of_isOf hshape).1
  · intro hspellings
    obtain ⟨shape, hshape⟩ := h.exists_isOf hhead hspellings
    exact ⟨_, Statement.read_eq_ok_iff.2 ⟨shape, hshape, rfl⟩⟩
  · intro d hd
    obtain ⟨shape, hshape, rfl⟩ := Statement.read_eq_ok_iff.1 hd
    exact (h.spellings_of_isOf hshape).2

end Reading

/-- The pieces of a list of tokens without their places. -/
theorem Token.map_spelling_pieces (tokens : List Token) :
    (pieces tokens).map (·.map spelling) =
      ((tokens.map spelling).splitOnP (·.lexeme == [';'])).filter (· ≠ []) := by
  have hcut : (tokens.map spelling).splitOnP (·.lexeme == [';']) =
      (tokens.splitOnP (·.lexeme == [';'])).map (·.map spelling) := by
    have hsplit := splitOnP_flatMap (f := fun t => [spelling t]) (p := (·.lexeme == [';']))
      (q := (·.lexeme == [';'])) (l := tokens) (fun t _ ht => ⟨_, rfl, ht⟩) (by simp [spelling])
    simpa only [← List.map_eq_flatMap] using hsplit
  rw [hcut, List.filter_map, pieces]
  congr 2
  funext piece
  simp

/-- The syntax phase agrees with the tokens when no literal holds a semicolon or a comment mark.
It succeeds when every piece of the tokens between semicolons is that of a declaration, and then
the declarations are made by the pieces in order. -/
theorem parse_agrees_with_tokens {source : Text} {tokens : List Token}
    (hlex : lex source = .ok tokens) (hquiet : ∀ t ∈ tokens, t.spelling.IsQuiet) :
    ((∃ tree, parse source = .ok tree) ↔
      ∀ piece ∈ Token.pieces tokens, Spelling.IsDeclaration (piece.map Token.spelling)) ∧
    ∀ tree, parse source = .ok tree → ∃ ds, tree = Tree.ofDeclarations ds ∧
      List.Forall₂ (fun piece d => Spelling.Makes (piece.map Token.spelling) d)
        (Token.pieces tokens) ds := by
  obtain ⟨r, rfl, hr, rfl⟩ := lex_eq_ok_iff.1 hlex
  rw [← List.forall_mem_map, Reading.map_spelling_tokensFrom] at hquiet
  have hstrip := Reading.strip_text hr hquiet
  rw [← Reading.spellings_plain] at hquiet
  obtain ⟨pieces, hpieces, htexts, hspellings⟩ :=
    (Reading.isPlain_plain hr).exists_pieces hquiet
  have hsplit : Statement.split r.text = pieces.map Reading.text := by
    rw [Statement.split, hstrip, htexts]
  have htokens : (Token.pieces (r.tokensFrom 0)).map (·.map Token.spelling) =
      pieces.map Reading.spellings := by
    rw [Token.map_spelling_pieces, Reading.map_spelling_tokensFrom, hspellings,
      Reading.spellings_plain]
  have hread (piece : Reading) (hpiece : piece ∈ pieces) :=
    (hpieces piece hpiece).1.read_text (hpieces piece hpiece).2
  constructor
  · have hdeclares : (∀ piece ∈ Token.pieces (r.tokensFrom 0),
        Spelling.IsDeclaration (piece.map Token.spelling)) ↔
          ∀ piece ∈ pieces, Spelling.IsDeclaration piece.spellings := by
      rw [← List.forall_mem_map (P := Spelling.IsDeclaration), htokens, List.forall_mem_map]
    rw [exists_parse_iff, hsplit, List.forall_mem_map, hdeclares]
    exact forall₂_congr fun piece hpiece => (hread piece hpiece).1
  · intro tree htree
    obtain ⟨ds, hds, rfl⟩ := parse_eq_ok_iff.1 htree
    refine ⟨ds, rfl, ?_⟩
    rw [hsplit, List.forall₂_map_left_iff] at hds
    rw [← List.forall₂_map_left_iff (R := Spelling.Makes), htokens, List.forall₂_map_left_iff]
    refine ((List.forall₂_and_left _ _).2 ⟨hread, hds⟩).imp ?_
    rintro piece d ⟨hpiece, hd⟩
    exact hpiece.2 d hd

/-- A declaration with a comment for a gap and no blank beside the sign of equality. -/
theorem parse_glued_declaration :
    lex "int/*;*/x='a'".toList = .ok [⟨.keyword, "int".toList, 0, 3⟩, ⟨.identifier, ['x'], 8, 9⟩,
        ⟨.operator, ['='], 9, 10⟩, ⟨.char, "'a'".toList, 10, 13⟩] ∧
      ∃ tree, parse "int/*;*/x='a'".toList = .ok tree := by
  have hlex : lex "int/*;*/x='a'".toList = .ok [⟨.keyword, "int".toList, 0, 3⟩,
      ⟨.identifier, ['x'], 8, 9⟩, ⟨.operator, ['='], 9, 10⟩, ⟨.char, "'a'".toList, 10, 13⟩] := by
    decide +kernel
  refine ⟨hlex, (parse_agrees_with_tokens hlex (by decide)).1.2 ?_⟩
  intro piece hpiece
  have hpieces := List.mem_singleton.1 hpiece
  rw [hpieces]
  exact ⟨rfl, by decide, rfl⟩

end DeclLang
