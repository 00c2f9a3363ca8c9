import DeclLang.Proofs.CommentFree
import DeclLang.Proofs.PlainReading
import DeclLang.Proofs.StatementGrammar
import DeclLang.Proofs.StatementSplit

/-!
# Programs one behind the other

A newline and a semicolon separate two programs. The newline ends a line comment at the end of the
first program, and if that program opens no block comment without closing it, no comment of the
whole text reaches across the seam. So the comments of both programs are stripped one program at a
time, the semicolon divides the statements, and the first program that has an error gives it.
-/

namespace DeclLang

namespace Comment

/-- A character that starts no comment starts none either when more text follows in a new line, as
long as the stripped text opens no block comment. -/
theorem front?_append_newline {c : Char} {rest : Text} (h : front? (c :: rest) = none)
    (hopen : ¬ ['/', '*'] <:+: c :: strip rest) (t : Text) :
    front? (c :: rest ++ '\n' :: t) = none := by
  by_cases hc : c = '/'
  · subst hc
    cases rest with
    | nil => rfl
    | cons d rest =>
      have hslash : d ≠ '/' := by
        rintro rfl
        exact (front?_eq_none_iff.1 h).1 (List.prefix_append ['/', '/'] rest)
      have hstar : d ≠ '*' := by
        rintro rfl
        have hnone : front? ('*' :: rest) = none := front?_eq_none (by simp)
        rw [strip, hnone] at hopen
        exact hopen (List.prefix_append ['/', '*'] (strip rest)).isInfix
      rw [front?_eq_none_iff]
      simp [hslash.symm, hstar]
  · exact front?_eq_none (by simpa using hc)

/-- Two texts with a newline between them are stripped one by one, if the stripped first text opens
no block comment. -/
theorem strip_append_newline {s : Text} (hopen : ¬ ['/', '*'] <:+: strip s) (t : Text) :
    strip (s ++ '\n' :: t) = strip s ++ '\n' :: strip t := by
  fun_induction strip s with
  | case1 =>
    have hnone : front? ('\n' :: t) = none := front?_eq_none (by simp)
    rw [List.nil_append, strip, hnone]
    rfl
  | case2 c rest comment hfront ih =>
    have hrest : ¬ ['/', '*'] <:+: strip (rest.drop (comment.length - 1)) :=
      fun hinside => hopen (List.infix_cons hinside)
    have hread := ih hrest
    obtain ⟨⟨tail, htail⟩, hne⟩ := front?_isFront hfront
    obtain ⟨d, comment, rfl⟩ := List.exists_cons_of_ne_nil hne
    rw [List.cons_append] at htail
    obtain ⟨rfl, rfl⟩ := List.cons.inj htail
    -- the comment is found again, for behind it stands what stood there, or the newline
    have hbreaks : Text.BreaksLineLike (tail ++ '\n' :: t) tail := by
      cases tail with
      | nil => exact .inr (by simp)
      | cons e tail => exact .inl rfl
    have hagain : front? (d :: comment ++ (tail ++ '\n' :: t)) = some (d :: comment) :=
      front?_of_breaksLineLike hfront hbreaks
    simp only [List.length_cons, Nat.add_sub_cancel, List.drop_left] at hread ⊢
    rw [← List.cons_append, List.append_assoc, strip_comment hagain, hread, List.cons_append]
  | case3 c rest hfront ih =>
    have hrest : ¬ ['/', '*'] <:+: strip rest := fun hinside => hopen (List.infix_cons hinside)
    have hnone := front?_append_newline hfront hopen t
    rw [List.cons_append] at hnone ⊢
    rw [strip, hnone]
    exact congrArg (c :: ·) (ih hrest)

end Comment

namespace Statement

/-- The statements of two programs with a newline and a semicolon between them are those of both. -/
theorem split_append {a : Text} (hopen : ¬ ['/', '*'] <:+: Comment.strip a) (b : Text) :
    split (a ++ '\n' :: ';' :: b) = split a ++ split b := by
  have hnone : Comment.front? (';' :: b) = none := Comment.front?_eq_none (by simp)
  have hsemicolon : Comment.strip (';' :: b) = ';' :: Comment.strip b := by
    rw [Comment.strip, hnone]
  have hseam : Comment.strip (a ++ '\n' :: ';' :: b) =
      Comment.strip a ++ ['\n'] ++ ';' :: Comment.strip b := by
    rw [Comment.strip_append_newline hopen, hsemicolon]
    simp
  have hnewline : Text.isBlank '\n' := by decide
  simp only [split_eq_splitPlain]
  rw [hseam, splitPlain_append, splitPlain_concat hnewline]

end Statement

/-- The declarations of two programs with a newline and a semicolon between them are read one
program after the other. -/
theorem parseDeclarations_append {a : Text} (hopen : ¬ ['/', '*'] <:+: Comment.strip a) (b : Text) :
    parseDeclarations (a ++ '\n' :: ';' :: b) = do
      let upper ← parseDeclarations a
      let lower ← parseDeclarations b
      return upper ++ lower := by
  rw [parseDeclarations, Statement.split_append hopen, List.mapM_append]
  rfl

/-- The phase gives the tree of the declarations that can be read. -/
theorem parse_eq_ok {source : Text} {ds : List Declaration} (h : parseDeclarations source = .ok ds) :
    parse source = .ok (Tree.ofDeclarations ds) := by
  rw [parse, h]
  rfl

/-- The phase fails where no declarations can be read. -/
theorem parse_eq_error_iff {source : Text} {e : SyntaxError} :
    parse source = .error e ↔ parseDeclarations source = .error e := by
  rw [parse]
  cases parseDeclarations source <;> simp [Except.map]

/-- Without declarations a program has the single child that says so. -/
theorem Tree.ofDeclarations_eq_iff {ds : List Declaration} :
    ofDeclarations ds = program [empty] ↔ ds = [] := by
  constructor
  · intro h
    rw [← declarations_ofDeclarations ds, h]
    rfl
  · intro h
    rw [h]
    rfl

/-- Parsing goes program by program. If the first program without its comments opens no block
comment, then with a newline, a semicolon and a second program behind it the whole text has the
error of the first program, or else the error of the second, or else the declarations of the first
program and those of the second behind them. A program without statements adds none, and the single
child `empty` stays only if neither program has any. -/
theorem parse_append_program {a b : Text} (hopen : ¬ ['/', '*'] <:+: Comment.strip a) :
    (∀ e, parse a = .error e → parse (a ++ '\n' :: ';' :: b) = .error e) ∧
    (∀ upper e, parse a = .ok upper → parse b = .error e →
      parse (a ++ '\n' :: ';' :: b) = .error e) ∧
    ∀ upper lower, parse a = .ok upper → parse b = .ok lower →
      ∃ tree, parse (a ++ '\n' :: ';' :: b) = .ok tree ∧
        tree = Tree.ofDeclarations (upper.declarations ++ lower.declarations) ∧
        (Statement.split a = [] → tree = lower) ∧ (Statement.split b = [] → tree = upper) ∧
        (tree = .program [.empty] ↔ Statement.split a = [] ∧ Statement.split b = []) := by
  have hwhole := parseDeclarations_append hopen b
  refine ⟨fun e ha => ?_, fun upper e ha hb => ?_, fun upper lower ha hb => ?_⟩
  · rw [parse_eq_error_iff] at ha ⊢
    rw [hwhole, ha]
    rfl
  · obtain ⟨ds, hds, -⟩ := parse_eq_ok_iff.1 ha
    have hupper : parseDeclarations a = .ok ds := mapM_eq_ok_iff.2 hds
    rw [parse_eq_error_iff] at hb ⊢
    rw [hwhole, hupper, hb]
    rfl
  · obtain ⟨ds, hds, rfl⟩ := parse_eq_ok_iff.1 ha
    obtain ⟨ds', hds', rfl⟩ := parse_eq_ok_iff.1 hb
    have hnone {s : Text} {ds : List Declaration}
        (h : List.Forall₂ (fun s d => Statement.read s = .ok d) (Statement.split s) ds) :
        Statement.split s = [] ↔ ds = [] := by
      rw [← List.length_eq_zero_iff, h.length_eq, List.length_eq_zero_iff]
    have hupper : parseDeclarations a = .ok ds := mapM_eq_ok_iff.2 hds
    have hlower : parseDeclarations b = .ok ds' := mapM_eq_ok_iff.2 hds'
    have hparse : parse (a ++ '\n' :: ';' :: b) = .ok (Tree.ofDeclarations (ds ++ ds')) := by
      apply parse_eq_ok
      rw [hwhole, hupper, hlower]
      rfl
    simp only [Tree.declarations_ofDeclarations, hnone hds, hnone hds']
    refine ⟨_, hparse, rfl, fun hds => by rw [hds]; rfl, fun hds' => by simp [hds'], ?_⟩
    rw [Tree.ofDeclarations_eq_iff, List.append_eq_nil_iff]

/-- A line comment at the end of a program hides neither its error nor anything of the program
behind it, although it seems to open a block comment that is closed there. -/
theorem parse_below_line_comment :
    parse ("int x //*".toList ++ '\n' :: ';' :: "*/".toList) =
        .error (.invalidStatement "int x".toList) ∧
      parse ("int x = 1 //*".toList ++ '\n' :: ';' :: "*/".toList) =
        .error (.invalidStatement "*/".toList) ∧
      ∃ tree, parse ("int x = 1 //*".toList ++ '\n' :: ';' :: "byte y=2;/**/".toList) = .ok tree ∧
        tree.declarations =
          [⟨"int".toList, ['x'], ['1']⟩, ⟨"byte".toList, ['y'], ['2']⟩] := by
  have hopen : ¬ ['/', '*'] <:+: Comment.strip "int x = 1 //*".toList := by decide +kernel
  have hopen' : ¬ ['/', '*'] <:+: Comment.strip "int x //*".toList := by decide +kernel
  have hfirst : parse "int x //*".toList = .error (.invalidStatement "int x".toList) :=
    parse_eq_error_iff.2 (by decide +kernel)
  have hsecond : parse "*/".toList = .error (.invalidStatement "*/".toList) :=
    parse_eq_error_iff.2 (by decide +kernel)
  have hupper : parse "int x = 1 //*".toList =
      .ok (Tree.ofDeclarations [⟨"int".toList, ['x'], ['1']⟩]) :=
    parse_eq_ok (by decide +kernel)
  have hlower : parse "byte y=2;/**/".toList =
      .ok (Tree.ofDeclarations [⟨"byte".toList, ['y'], ['2']⟩]) :=
    parse_eq_ok (by decide +kernel)
  obtain ⟨tree, htree, rfl, -⟩ := (parse_append_program hopen).2.2 _ _ hupper hlower
  exact ⟨(parse_append_program hopen').1 _ hfirst,
    (parse_append_program hopen).2.1 _ _ hupper hsecond, _, htree, rfl⟩

end DeclLang
