import DeclLang.Proofs.CharacterClass
import DeclLang.Proofs.FirstFailure
import DeclLang.Proofs.Span
import DeclLang.Tree.Statement

/-!
# The grammar of statements

A statement declares a variable when it consists of a type, blanks, an identifier, blanks, the sign
of equality, blanks and an expression. It can be cut in this way at most once, though the sign may
stand in the expression or be glued to the identifier. The syntax phase succeeds when every
statement can be cut, and otherwise gives the error of the first one that cannot.
-/

namespace DeclLang

/-- A word names a type just when it is the name of a primitive type. -/
theorem Word.isTypeName_iff {w : Text} :
    isTypeName w ↔ ∃ type : PrimitiveType, w = type.name.toList := by
  simp only [isTypeName, Option.isSome_iff_exists, PrimitiveType.ofName?_eq_some]

namespace Statement

/-- Whether a character goes on with an identifier before it is checked. -/
def isInside (c : Char) : Bool := !Text.isBlank c && c != '='

/-- Only blanks and the sign of equality end an identifier. -/
theorem isInside_eq_false_iff {c : Char} : isInside c = false ↔ Text.isBlank c ∨ c = '=' := by
  simp [isInside, imp_iff_not_or]

/-- The parts of a statement, with the blanks between them. -/
structure Shape where
  typeName : Text
  gap : Text
  identifier : Text
  beforeSign : Text
  afterSign : Text
  expression : Text
deriving DecidableEq, Repr

namespace Shape

/-- The statement behind its identifier. -/
def afterIdentifier (shape : Shape) : Text :=
  shape.beforeSign ++ '=' :: (shape.afterSign ++ shape.expression)

/-- The statement behind its type. -/
def afterType (shape : Shape) : Text := shape.gap ++ (shape.identifier ++ shape.afterIdentifier)

/-- The statement that has the parts. -/
def text (shape : Shape) : Text := shape.typeName ++ shape.afterType

/-- The declaration that the statement makes. -/
def declaration (shape : Shape) : Declaration :=
  ⟨shape.typeName, shape.identifier, shape.expression⟩

/-- There are blanks behind the type, only blanks beside the sign of equality, and an expression
that starts where they end. -/
structure IsSpaced (shape : Shape) : Prop where
  gap_ne_nil : shape.gap ≠ []
  gap : ∀ c ∈ shape.gap, Text.isBlank c
  beforeSign : ∀ c ∈ shape.beforeSign, Text.isBlank c
  afterSign : ∀ c ∈ shape.afterSign, Text.isBlank c
  expression_ne_nil : shape.expression ≠ []
  expression : ∀ c ∈ shape.expression.head?, Text.isBlank c = false

/-- The type and the identifier end where they must, whatever else they are. -/
structure IsCut (shape : Shape) : Prop extends IsSpaced shape where
  typeName_ne_nil : shape.typeName ≠ []
  typeName : ∀ c ∈ shape.typeName, Text.isBlank c = false
  identifier : ∃ c rest, shape.identifier = c :: rest ∧ Text.isBlank c = false ∧
    ∀ d ∈ rest, isInside d

/-- The type is primitive and the identifier is one. -/
structure IsDeclaration (shape : Shape) : Prop extends IsSpaced shape where
  typeName : ∃ type : PrimitiveType, shape.typeName = type.name.toList
  identifier : Word.isIdentifier shape.identifier

/-- A statement is made of the parts of a declaration. -/
def IsOf (shape : Shape) (statement : Text) : Prop := shape.text = statement ∧ shape.IsDeclaration

variable {shape shape' : Shape}

/-- A declaration is cut where its parts must end. -/
theorem IsDeclaration.isCut (h : shape.IsDeclaration) : shape.IsCut := by
  obtain ⟨type, htype⟩ := h.typeName
  have hne : type.name.toList ≠ [] := by cases type <;> decide
  have hletters : type.name.toList.all (!Text.isBlank ·) := by cases type <;> decide
  obtain ⟨c, rest, hidentifier, hc, hrest⟩ := Word.isIdentifier_iff.1 h.identifier
  refine ⟨h.toIsSpaced, htype ▸ hne, ?_, c, rest, hidentifier, ?_, ?_⟩
  · intro d hd
    simpa using List.all_eq_true.1 hletters d (htype ▸ hd)
  · exact (Word.isSolid_of_isPart (Word.isPart_of_isStart hc)).1
  · intro d hd
    have hsign : d ≠ '=' := by
      rintro rfl
      exact absurd (hrest _ hd) (by decide)
    simp [isInside, (Word.isSolid_of_isPart (hrest d hd)).1, hsign]

/-- A statement goes on with a blank behind its type. -/
theorem IsSpaced.head?_afterType (h : shape.IsSpaced) :
    ∀ c ∈ shape.afterType.head?, Text.isBlank c := by
  obtain ⟨c, rest, hgap⟩ := List.exists_cons_of_ne_nil h.gap_ne_nil
  have hc : Text.isBlank c := h.gap c (by simp [hgap])
  simpa [afterType, hgap] using hc

/-- The identifier does not go on behind its end. -/
theorem IsSpaced.head?_afterIdentifier (h : shape.IsSpaced) :
    ∀ c ∈ shape.afterIdentifier.head?, isInside c = false := by
  intro c hc
  rw [isInside_eq_false_iff]
  cases hblanks : shape.beforeSign with
  | nil => exact .inr (by simpa [afterIdentifier, hblanks, eq_comm] using hc)
  | cons d rest =>
    have hd : Text.isBlank d := h.beforeSign d (by simp [hblanks])
    have heq : d = c := by simpa [afterIdentifier, hblanks] using hc
    exact .inl (heq ▸ hd)

/-- The identifier starts with no blank. -/
theorem IsCut.head?_identifier (h : shape.IsCut) :
    ∀ c ∈ (shape.identifier ++ shape.afterIdentifier).head?, Text.isBlank c = false := by
  obtain ⟨c, rest, hidentifier, hc, -⟩ := h.identifier
  simpa [hidentifier] using hc

/-- A statement can be cut in one way only. -/
theorem IsCut.unique (h : shape.IsCut) (h' : shape'.IsCut) (heq : shape.text = shape'.text) :
    shape = shape' := by
  have htype (shape : Shape) (h : shape.IsCut) :
      (∀ c ∈ shape.typeName, !Text.isBlank c) ∧
        ∀ c ∈ shape.afterType.head?, (!Text.isBlank c) = false :=
    ⟨by simpa using h.typeName, by simpa using h.head?_afterType⟩
  obtain ⟨htypeName, hafterType⟩ := Text.append_inj_of_span heq (htype _ h).1 (htype _ h).2
    (htype _ h').1 (htype _ h').2
  obtain ⟨hgap, hidentifiers⟩ := Text.append_inj_of_span hafterType h.gap h.head?_identifier
    h'.gap h'.head?_identifier
  obtain ⟨c, rest, hc, -, hrest⟩ := h.identifier
  obtain ⟨c', rest', hc', -, hrest'⟩ := h'.identifier
  rw [hc, hc'] at hidentifiers
  obtain ⟨rfl, hrests⟩ := List.cons.inj hidentifiers
  obtain ⟨rfl, hsigns⟩ := Text.append_inj_of_span hrests hrest h.head?_afterIdentifier hrest'
    h'.head?_afterIdentifier
  have hsign (s : Text) : ∀ c ∈ ('=' :: s).head?, Text.isBlank c = false := by
    rintro c ⟨⟩
    decide
  obtain ⟨hbefore, hvalues⟩ := Text.append_inj_of_span hsigns h.beforeSign (hsign _) h'.beforeSign
    (hsign _)
  obtain ⟨hafter, hexpression⟩ := Text.append_inj_of_span (List.cons.inj hvalues).2 h.afterSign
    h.expression h'.afterSign h'.expression
  cases shape
  cases shape'
  simp_all

end Shape

open Shape

/-- Cutting out an identifier loses nothing. -/
theorem cutIdentifier_append (s : Text) : (cutIdentifier s).1 ++ (cutIdentifier s).2 = s := by
  cases s with
  | nil => rfl
  | cons c rest => exact congrArg (c :: ·) List.takeWhile_append_dropWhile

/-- An identifier is cut out where it ends. -/
theorem cutIdentifier_eq {c : Char} {w s : Text} (hw : ∀ d ∈ w, isInside d)
    (hs : ∀ d ∈ s.head?, isInside d = false) : cutIdentifier (c :: w ++ s) = (c :: w, s) := by
  exact congrArg₂ (fun a b => (c :: a, b)) (Text.takeWhile_append_eq hw hs)
    (Text.dropWhile_append_eq hw hs)

/-- The parts of a statement are found in it. -/
theorem cut?_text {shape : Shape} (h : shape.IsCut) : cut? shape.text = some shape.declaration := by
  have hletters : ∀ c ∈ shape.typeName, !Text.isBlank c := by simpa using h.typeName
  have hgap : ∀ c ∈ shape.afterType.head?, (!Text.isBlank c) = false := by
    simpa using h.head?_afterType
  have htype : shape.text.takeWhile (!Text.isBlank ·) = shape.typeName :=
    Text.takeWhile_append_eq hletters hgap
  have hafterType : shape.text.dropWhile (!Text.isBlank ·) = shape.afterType :=
    Text.dropWhile_append_eq hletters hgap
  have hne : ¬ (shape.typeName = [] ∨ shape.afterType = []) := by
    simp [h.typeName_ne_nil, afterType, h.gap_ne_nil]
  have hidentifiers : Text.trimLeft shape.afterType = shape.identifier ++ shape.afterIdentifier :=
    Text.trimLeft_append_eq h.gap h.head?_identifier
  obtain ⟨c, rest, hc, -, hrest⟩ := h.identifier
  have hidentifier : cutIdentifier (shape.identifier ++ shape.afterIdentifier) =
      (shape.identifier, shape.afterIdentifier) := by
    rw [hc, cutIdentifier_eq hrest h.head?_afterIdentifier]
  have hsign : Text.trimLeft shape.afterIdentifier = '=' :: (shape.afterSign ++ shape.expression) :=
    Text.trimLeft_append_eq h.beforeSign (by rintro c ⟨⟩; decide)
  have hvalue : Text.trimLeft (shape.afterSign ++ shape.expression) = shape.expression :=
    Text.trimLeft_append_eq h.afterSign h.expression
  have hparts : ¬ (shape.identifier = [] ∨ shape.expression = []) := by
    simp [hc, h.expression_ne_nil]
  rw [cut?, htype, hafterType]
  simp only [if_neg hne, hidentifiers, hidentifier, hsign, hvalue, if_neg hparts]
  rfl

/-- An identifier that is cut out of a trimmed text starts with no blank and goes on to its end. -/
theorem cutIdentifier_trimLeft {s : Text} (h : (cutIdentifier (Text.trimLeft s)).1 ≠ []) :
    ∃ c rest, (cutIdentifier (Text.trimLeft s)).1 = c :: rest ∧ Text.isBlank c = false ∧
      ∀ d ∈ rest, isInside d := by
  cases htrim : Text.trimLeft s with
  | nil => simp [htrim, cutIdentifier] at h
  | cons c rest =>
    have hc : c ∈ (s.dropWhile Text.isBlank).head? := by
      rw [← Text.trimLeft, htrim]
      rfl
    exact ⟨c, rest.takeWhile isInside, rfl, Text.head?_dropWhile hc,
      fun d hd => List.mem_takeWhile_imp hd⟩

/-- The parts of a statement and the blanks between them, where a value follows the sign of
equality. -/
def cutShape (s value : Text) : Shape where
  typeName := s.takeWhile (!Text.isBlank ·)
  gap := (s.dropWhile (!Text.isBlank ·)).takeWhile Text.isBlank
  identifier := (cutIdentifier (Text.trimLeft (s.dropWhile (!Text.isBlank ·)))).1
  beforeSign :=
    (cutIdentifier (Text.trimLeft (s.dropWhile (!Text.isBlank ·)))).2.takeWhile Text.isBlank
  afterSign := value.takeWhile Text.isBlank
  expression := Text.trimLeft value

/-- Cutting a statement into its parts loses nothing. -/
theorem text_cutShape {s value : Text}
    (hsign : Text.trimLeft (cutIdentifier (Text.trimLeft (s.dropWhile (!Text.isBlank ·)))).2 =
      '=' :: value) : (cutShape s value).text = s := by
  have htrim (t : Text) : t.takeWhile Text.isBlank ++ Text.trimLeft t = t :=
    List.takeWhile_append_dropWhile
  simp only [text, afterType, afterIdentifier, cutShape]
  rw [htrim value, ← hsign, htrim, cutIdentifier_append, htrim, List.takeWhile_append_dropWhile]

/-- The parts of a statement end where they must, if none is missing. -/
theorem isCut_cutShape {s value : Text} (htype : s.takeWhile (!Text.isBlank ·) ≠ [])
    (hafterType : s.dropWhile (!Text.isBlank ·) ≠ [])
    (hidentifier : (cutIdentifier (Text.trimLeft (s.dropWhile (!Text.isBlank ·)))).1 ≠ [])
    (hexpression : Text.trimLeft value ≠ []) : (cutShape s value).IsCut where
  gap_ne_nil := Text.takeWhile_isBlank_ne_nil hafterType
  gap := fun _ hc => List.mem_takeWhile_imp hc
  beforeSign := fun _ hc => List.mem_takeWhile_imp hc
  afterSign := fun _ hc => List.mem_takeWhile_imp hc
  expression_ne_nil := hexpression
  expression := fun _ hc => Text.head?_dropWhile hc
  typeName_ne_nil := htype
  typeName := fun _ hc => by simpa using List.mem_takeWhile_imp hc
  identifier := cutIdentifier_trimLeft hidentifier

/-- A statement that has parts is made of them. -/
theorem exists_isCut {s : Text} {d : Declaration} (h : cut? s = some d) :
    ∃ shape : Shape, shape.text = s ∧ shape.IsCut ∧ shape.declaration = d := by
  simp only [cut?] at h
  split at h
  · contradiction
  · rename_i htypes
    obtain ⟨htype, hafterType⟩ := not_or.1 htypes
    split at h
    · rename_i value hsign
      split at h
      · contradiction
      · rename_i hparts
        obtain ⟨hidentifier, hexpression⟩ := not_or.1 hparts
        cases h
        exact ⟨cutShape s value, text_cutShape hsign,
          isCut_cutShape htype hafterType hidentifier hexpression, rfl⟩
    · contradiction

/-- A statement has parts exactly when it can be cut. -/
theorem cut?_eq_some_iff {s : Text} {d : Declaration} :
    cut? s = some d ↔ ∃ shape : Shape, shape.text = s ∧ shape.IsCut ∧ shape.declaration = d := by
  refine ⟨exists_isCut, ?_⟩
  rintro ⟨shape, rfl, h, rfl⟩
  exact cut?_text h

/-- A statement makes a declaration exactly when it is cut into the parts of one. -/
theorem read_eq_ok_iff {s : Text} {d : Declaration} :
    read s = .ok d ↔ ∃ shape : Shape, shape.IsOf s ∧ shape.declaration = d := by
  constructor
  · intro h
    unfold read at h
    split at h
    · contradiction
    · rename_i d' hcut
      obtain ⟨shape, rfl, hshape, rfl⟩ := cut?_eq_some_iff.1 hcut
      split_ifs at h with htype hdigit hidentifier
      cases h
      rw [Bool.not_eq_true, Bool.not_eq_false'] at htype hidentifier
      exact ⟨shape, ⟨rfl, hshape.toIsSpaced, Word.isTypeName_iff.1 htype, hidentifier⟩, rfl⟩
  · rintro ⟨shape, ⟨rfl, h⟩, rfl⟩
    have htype : Word.isTypeName shape.typeName := Word.isTypeName_iff.2 h.typeName
    have hdigit : shape.identifier.head?.any Char.isDigit = false := by
      obtain ⟨c, rest, hidentifier, hc, -⟩ := Word.isIdentifier_iff.1 h.identifier
      simp [hidentifier, Word.isDigit_eq_false_of_isStart hc]
    rw [read, cut?_text h.isCut]
    simp [declaration, htype, hdigit, h.identifier]

/-- The declarations of statements are those that their parts make. -/
theorem forall₂_read_iff {statements : List Text} {ds : List Declaration} :
    List.Forall₂ (fun s d => read s = .ok d) statements ds ↔
      ∃ shapes : List Shape, List.Forall₂ (fun s shape => shape.IsOf s) statements shapes ∧
        shapes.map (·.declaration) = ds := by
  constructor
  · intro h
    induction h with
    | nil => exact ⟨[], .nil, rfl⟩
    | cons hs _ ih =>
      obtain ⟨shape, hshape, rfl⟩ := read_eq_ok_iff.1 hs
      obtain ⟨shapes, hshapes, rfl⟩ := ih
      exact ⟨shape :: shapes, .cons hshape hshapes, rfl⟩
  · rintro ⟨shapes, h, rfl⟩
    rw [List.forall₂_map_right_iff]
    exact h.imp fun s shape hshape => read_eq_ok_iff.2 ⟨shape, hshape, rfl⟩

end Statement

/-- A source has the tree of its declarations exactly when every statement makes one. -/
theorem parse_eq_ok_iff {source : Text} {tree : Tree} :
    parse source = .ok tree ↔ ∃ ds, List.Forall₂ (fun s d => Statement.read s = .ok d)
      (Statement.split source) ds ∧ tree = Tree.ofDeclarations ds := by
  rw [parse, parseDeclarations]
  constructor
  · intro h
    cases hds : (Statement.split source).mapM Statement.read with
    | error e => simp [hds, Except.map] at h
    | ok ds =>
      rw [hds] at h
      exact ⟨ds, mapM_eq_ok_iff.1 hds, (Except.ok.inj h).symm⟩
  · rintro ⟨ds, hds, rfl⟩
    rw [mapM_eq_ok_iff.2 hds]
    rfl

/-- A source has a tree exactly when every statement makes a declaration. -/
theorem exists_parse_iff {source : Text} :
    (∃ tree, parse source = .ok tree) ↔
      ∀ statement ∈ Statement.split source, ∃ d, Statement.read statement = .ok d := by
  simp only [parse_eq_ok_iff]
  generalize Statement.split source = statements
  constructor
  · rintro ⟨-, ds, hds, -⟩
    induction hds with
    | nil => simp
    | cons hd _ ih => exact List.forall_mem_cons.2 ⟨⟨_, hd⟩, ih⟩
  · intro h
    induction statements with
    | nil => exact ⟨_, [], .nil, rfl⟩
    | cons s statements ih =>
      obtain ⟨⟨d, hd⟩, hrest⟩ := List.forall_mem_cons.1 h
      obtain ⟨-, ds, hds, -⟩ := ih hrest
      exact ⟨_, d :: ds, .cons hd hds, rfl⟩

/-- Every declaration of a source is made by one of its statements. -/
theorem exists_read_of_mem_declarations {source : Text} {tree : Tree} {d : Declaration}
    (h : parse source = .ok tree) (hd : d ∈ tree.declarations) :
    ∃ statement ∈ Statement.split source, Statement.read statement = .ok d := by
  obtain ⟨ds, hds, rfl⟩ := parse_eq_ok_iff.1 h
  rw [Tree.declarations_ofDeclarations] at hd
  clear h
  generalize Statement.split source = statements at hds
  induction hds with
  | nil => contradiction
  | @cons statement first statements ds hfirst _ ih =>
    rcases List.mem_cons.1 hd with rfl | hrest
    · exact ⟨statement, List.mem_cons_self, hfirst⟩
    · obtain ⟨other, hother, hread⟩ := ih hrest
      exact ⟨other, List.mem_cons_of_mem _ hother, hread⟩

/-- The syntax phase accepts its grammar. A statement is cut into the parts of a declaration in at
most one way, the tree holds the declarations in order, and the error is that of the first
statement without such parts, whatever comes behind it. -/
theorem parse_accepts_grammar (source : Text) :
    (∀ statement (shape shape' : Statement.Shape),
      shape.IsOf statement → shape'.IsOf statement → shape = shape') ∧
    (∀ tree, parse source = .ok tree ↔ ∃ shapes : List Statement.Shape,
      List.Forall₂ (fun statement shape => shape.IsOf statement) (Statement.split source) shapes ∧
        tree = Tree.ofDeclarations (shapes.map (·.declaration))) ∧
    ((∃ tree, parse source = .ok tree) ↔
      ∀ statement ∈ Statement.split source, ∃ shape : Statement.Shape, shape.IsOf statement) ∧
    (Statement.split source = [] → parse source = .ok (.program [.empty])) ∧
    ∀ before statement later, Statement.split source = before ++ statement :: later →
      (∀ earlier ∈ before, ∃ shape : Statement.Shape, shape.IsOf earlier) →
      (¬ ∃ shape : Statement.Shape, shape.IsOf statement) →
        ∃ e, Statement.read statement = .error e ∧ parse source = .error e := by
  have hread (statement : Text) : (∃ d, Statement.read statement = .ok d) ↔
      ∃ shape : Statement.Shape, shape.IsOf statement := by
    simp only [Statement.read_eq_ok_iff]
    exact ⟨fun ⟨d, shape, h, _⟩ => ⟨shape, h⟩, fun ⟨shape, h⟩ => ⟨_, shape, h, rfl⟩⟩
  refine ⟨?_, ?_, ?_, ?_, ?_⟩
  · rintro statement shape shape' ⟨rfl, h⟩ ⟨heq, h'⟩
    exact h.isCut.unique h'.isCut heq.symm
  · intro tree
    rw [parse_eq_ok_iff]
    constructor
    · rintro ⟨ds, hds, rfl⟩
      obtain ⟨shapes, hshapes, rfl⟩ := Statement.forall₂_read_iff.1 hds
      exact ⟨shapes, hshapes, rfl⟩
    · rintro ⟨shapes, hshapes, rfl⟩
      exact ⟨_, Statement.forall₂_read_iff.2 ⟨shapes, hshapes, rfl⟩, rfl⟩
  · simp only [← hread, exists_parse_iff]
  · intro hnone
    exact parse_eq_ok_iff.2 ⟨[], hnone ▸ .nil, rfl⟩
  · intro before statement later hsplit hbefore hstatement
    cases he : Statement.read statement with
    | ok d => exact absurd ((hread _).1 ⟨d, he⟩) hstatement
    | error e =>
      have hall : (Statement.split source).mapM Statement.read = .error e :=
        mapM_eq_error_iff.2 ⟨before, statement, later, hsplit,
          fun s hs => (hread s).2 (hbefore s hs), he⟩
      exact ⟨e, rfl, by rw [parse, parseDeclarations, hall]; rfl⟩

/-- The second of three statements is the first that makes no declaration. -/
theorem parse_stops_at_second_statement :
    ∃ e, Statement.read "b".toList = .error e ∧ parse "int a = 1; b; c".toList = .error e := by
  refine (parse_accepts_grammar _).2.2.2.2 ["int a = 1".toList] "b".toList ["c".toList]
    (by decide +kernel) ?_ ?_
  · intro earlier hearlier
    rw [List.mem_singleton.1 hearlier]
    refine ⟨⟨"int".toList, [' '], ['a'], [' '], [' '], ['1']⟩, rfl, ?_, ⟨.int, rfl⟩, by decide⟩
    have hblank : ∀ c ∈ [' '], Text.isBlank c := fun c hc => List.mem_singleton.1 hc ▸ rfl
    refine ⟨by decide, hblank, hblank, hblank, by decide, ?_⟩
    rintro c ⟨⟩
    decide
  · rintro ⟨shape, h⟩
    have hread := Statement.read_eq_ok_iff.2 ⟨shape, h, rfl⟩
    have herror : Statement.read "b".toList = .error (.invalidStatement "b".toList) := by decide
    rw [herror] at hread
    contradiction

end DeclLang
