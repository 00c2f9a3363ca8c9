import DeclLang.Proofs.StatementGrammar

/-!
# Statements under backtracking

The pattern of a statement is a run without blanks, a run of blanks, a shortest run without blanks,
the sign of equality with blanks beside it, and anything. Many texts match it in more than one
way. Here all ways are listed in the order in which backtracking tries them, and the first one
is the cut that the syntax phase makes.
-/

namespace DeclLang

namespace Text

/-- The ways to take characters that pass a test from the front of a text, the most first. -/
def greedy (p : Char → Bool) : Text → List (Text × Text)
  | [] => [([], [])]
  | c :: rest =>
    if p c then (greedy p rest).map (fun cut => (c :: cut.1, cut.2)) ++ [([], c :: rest)]
    else [([], c :: rest)]

/-- The ways to take characters that pass a test from the front of a text, the fewest first. -/
def lazy (p : Char → Bool) : Text → List (Text × Text)
  | [] => [([], [])]
  | c :: rest =>
    ([], c :: rest) :: if p c then (lazy p rest).map (fun cut => (c :: cut.1, cut.2)) else []

/-- The most characters are tried first. -/
theorem head?_greedy (p : Char → Bool) (s : Text) :
    (greedy p s).head? = some (s.takeWhile p, s.dropWhile p) := by
  induction s with
  | nil => rfl
  | cons c rest ih =>
    by_cases hc : p c
    · simp [greedy, hc, ih]
    · simp [greedy, hc]

/-- Where nothing can go on before a character that could have been taken, only the most characters
lead on. -/
theorem flatMap_greedy {β : Type} {p : Char → Bool} {f : Text × Text → List β}
    (hf : ∀ w c s, p c → f (w, c :: s) = []) (s : Text) :
    (greedy p s).flatMap f = f (s.takeWhile p, s.dropWhile p) := by
  induction s generalizing f with
  | nil => simp [greedy]
  | cons c rest ih =>
    by_cases hc : p c
    · have hlater := ih (f := fun cut => f (c :: cut.1, cut.2)) fun w => hf (c :: w)
      have hstop : f ([], c :: rest) = [] := hf [] c rest hc
      simpa [greedy, hc, List.flatMap_map, hstop] using hlater
    · simp [greedy, hc]

end Text

namespace Statement

/-- The declarations that a value can make, in the order of backtracking. -/
def valueMatches (typeName identifier value : Text) : List Declaration :=
  (Text.greedy Text.isBlank value).flatMap fun cut =>
    if cut.2 = [] then [] else [⟨typeName, identifier, cut.2⟩]

/-- The declarations that a sign of equality and a value can make, in the order of backtracking. -/
def signMatches (typeName identifier : Text) : Text → List Declaration
  | '=' :: value => valueMatches typeName identifier value
  | _ => []

/-- The declarations that the text from an identifier on can make, in the order of backtracking,
when a first part of the identifier is given. -/
def identifierMatches (typeName pre s : Text) : List Declaration :=
  (Text.lazy (!Text.isBlank ·) s).flatMap fun cut =>
    if pre ++ cut.1 = [] then []
    else (Text.greedy Text.isBlank cut.2).flatMap fun blanks =>
      signMatches typeName (pre ++ cut.1) blanks.2

/-- The declarations that the text from a gap on can make, in the order of backtracking. -/
def gapMatches (typeName s : Text) : List Declaration :=
  (Text.greedy Text.isBlank s).flatMap fun cut =>
    if cut.1 = [] then [] else identifierMatches typeName [] cut.2

/-- The declarations that a statement can make, in the order of backtracking. -/
def allMatches (statement : Text) : List Declaration :=
  (Text.greedy (!Text.isBlank ·) statement).flatMap fun cut =>
    if cut.1 = [] then [] else gapMatches cut.1 cut.2

/-- A text does not end with a blank. -/
def EndsSolid (s : Text) : Prop := ∀ c ∈ s.getLast?, Text.isBlank c = false

/-- What is left of such a text does not end with a blank either. -/
theorem EndsSolid.of_append {w s : Text} (h : EndsSolid (w ++ s)) : EndsSolid s := by
  intro c hc
  apply h c
  rw [List.getLast?_append, Option.mem_def.1 hc]
  rfl

/-- Dropping characters at the front leaves the end alone. -/
theorem EndsSolid.dropWhile {s : Text} (h : EndsSolid s) (p : Char → Bool) :
    EndsSolid (s.dropWhile p) := by
  rw [← List.takeWhile_append_dropWhile (p := p) (l := s)] at h
  exact h.of_append

/-- Only the empty text consists of blanks and does not end with one. -/
theorem EndsSolid.eq_nil {s : Text} (h : EndsSolid s) (hnil : Text.trimLeft s = []) : s = [] := by
  cases hlast : s.getLast? with
  | none => exact List.getLast?_eq_none_iff.1 hlast
  | some c =>
    have hc := List.dropWhile_eq_nil_iff.1 hnil c (List.mem_of_getLast? hlast)
    rw [h c hlast] at hc
    contradiction

/-- The first expression is the value without the blanks at its front, if it is anything else. -/
theorem head?_valueMatches {typeName identifier value : Text} (h : EndsSolid value) :
    (valueMatches typeName identifier value).head? =
      if Text.trimLeft value = [] then none
      else some ⟨typeName, identifier, Text.trimLeft value⟩ := by
  by_cases hnil : Text.trimLeft value = []
  · rw [if_pos hnil, h.eq_nil hnil]
    rfl
  · obtain ⟨others, hothers⟩ := List.head?_eq_some_iff.1 (Text.head?_greedy Text.isBlank value)
    have hexpression : value.dropWhile Text.isBlank ≠ [] := hnil
    rw [if_neg hnil, valueMatches, hothers, List.flatMap_cons]
    simp only [if_neg hexpression]
    rfl

/-- The blanks in front of the sign of equality are all taken. -/
theorem flatMap_signMatches (typeName identifier s : Text) :
    ((Text.greedy Text.isBlank s).flatMap fun cut => signMatches typeName identifier cut.2) =
      signMatches typeName identifier (Text.trimLeft s) := by
  apply Text.flatMap_greedy
  intro w c t hblank
  have hne : c ≠ '=' := Text.ne_of_isBlank hblank (by decide)
  unfold signMatches
  split
  · simp_all
  · rfl

/-- A shorter identifier is passed over until it ends before a blank or the sign of equality, and
no longer one leads on. -/
theorem head?_identifierMatches {typeName pre s : Text} (hpre : pre ≠ []) (h : EndsSolid s) :
    (identifierMatches typeName pre s).head? =
      (signMatches typeName (pre ++ s.takeWhile isInside)
        (Text.trimLeft (s.dropWhile isInside))).head? := by
  induction s generalizing pre with
  | nil => simp [identifierMatches, Text.lazy, hpre, flatMap_signMatches]
  | cons c rest ih =>
    have hrest : EndsSolid rest := EndsSolid.of_append (w := [c]) h
    have hcons : identifierMatches typeName pre (c :: rest) =
        signMatches typeName pre (Text.trimLeft (c :: rest)) ++
          if Text.isBlank c then [] else identifierMatches typeName (pre ++ [c]) rest := by
      rw [identifierMatches, Text.lazy, List.flatMap_cons]
      cases hblank : Text.isBlank c
      · simp [hpre, flatMap_signMatches, identifierMatches, List.flatMap_map]
      · simp [hpre, flatMap_signMatches]
    rw [hcons]
    cases hinside : isInside c with
    | true =>
      obtain ⟨hblank, hsign⟩ : Text.isBlank c = false ∧ c ≠ '=' := by simpa [isInside] using hinside
      have htrim : Text.trimLeft (c :: rest) = c :: rest := by simp [Text.trimLeft, hblank]
      have hnone : signMatches typeName pre (c :: rest) = [] := by
        unfold signMatches
        split
        · simp_all
        · rfl
      rw [htrim, hnone, List.nil_append, hblank, if_neg (by decide), ih (by simp) hrest,
        List.takeWhile_cons_of_pos hinside, List.dropWhile_cons_of_pos hinside,
        List.append_assoc, List.singleton_append]
    | false =>
      have hstop : ¬ isInside c := by simp [hinside]
      rw [List.takeWhile_cons_of_neg hstop, List.dropWhile_cons_of_neg hstop, List.append_nil]
      rcases isInside_eq_false_iff.1 hinside with hblank | rfl
      · rw [if_pos hblank, List.append_nil]
      · have htrim : Text.trimLeft ('=' :: rest) = '=' :: rest := by
          simp [Text.trimLeft, show Text.isBlank '=' = false by decide]
        rw [htrim, List.head?_append, signMatches, head?_valueMatches hrest]
        by_cases hnil : Text.trimLeft rest = []
        · rw [hrest.eq_nil hnil]
          simp [identifierMatches, Text.lazy, Text.greedy, signMatches]
        · rw [if_neg hnil]
          rfl

/-- All blanks behind the type are taken. -/
theorem gapMatches_eq (typeName s : Text) :
    gapMatches typeName s =
      if s.takeWhile Text.isBlank = [] then []
      else identifierMatches typeName [] (Text.trimLeft s) := by
  apply Text.flatMap_greedy
  intro w c t hblank
  simp [identifierMatches, Text.lazy, hblank]

/-- All characters that are not blank are taken for the type. -/
theorem allMatches_eq (statement : Text) :
    allMatches statement =
      if statement.takeWhile (!Text.isBlank ·) = [] then []
      else gapMatches (statement.takeWhile (!Text.isBlank ·))
        (statement.dropWhile (!Text.isBlank ·)) := by
  apply Text.flatMap_greedy
  intro w c t hsolid
  have hblank : Text.isBlank c = false := by simpa using hsolid
  simp [gapMatches_eq, hblank]

/-- The first character of an identifier is taken whatever it is. -/
theorem identifierMatches_cons {typeName rest : Text} {c : Char} (hc : Text.isBlank c = false) :
    identifierMatches typeName [] (c :: rest) = identifierMatches typeName [c] rest := by
  simp [identifierMatches, Text.lazy, hc, List.flatMap_map]

/-- The first way to match the text behind a gap is the cut there. -/
theorem head?_identifierMatches_nil {typeName s : Text} (h : EndsSolid s)
    (hhead : ∀ c ∈ s.head?, Text.isBlank c = false) :
    (identifierMatches typeName [] s).head? =
      match Text.trimLeft (cutIdentifier s).2 with
      | '=' :: value =>
        if (cutIdentifier s).1 = [] ∨ Text.trimLeft value = [] then none
        else some ⟨typeName, (cutIdentifier s).1, Text.trimLeft value⟩
      | _ => none := by
  cases s with
  | nil => rfl
  | cons c rest =>
    have hrest : EndsSolid rest := EndsSolid.of_append (w := [c]) h
    have hcut : cutIdentifier (c :: rest) =
        (c :: rest.takeWhile isInside, rest.dropWhile isInside) := rfl
    rw [identifierMatches_cons (hhead c rfl), head?_identifierMatches (by simp) hrest, hcut]
    have hsign : EndsSolid (Text.trimLeft (rest.dropWhile isInside)) :=
      (hrest.dropWhile isInside).dropWhile Text.isBlank
    simp only [List.singleton_append, reduceCtorEq, false_or]
    generalize Text.trimLeft (rest.dropWhile isInside) = sign at *
    unfold signMatches
    split
    · rename_i value
      exact head?_valueMatches (EndsSolid.of_append (w := ['=']) hsign)
    · rfl

/-- The first of all ways to match a statement that ends with no blank is the cut of the syntax
phase. -/
theorem head?_allMatches {statement : Text} (h : EndsSolid statement) :
    (allMatches statement).head? = cut? statement := by
  have hafter : EndsSolid (Text.trimLeft (statement.dropWhile (!Text.isBlank ·))) :=
    (h.dropWhile _).dropWhile _
  rw [allMatches_eq, cut?]
  by_cases htype : statement.takeWhile (!Text.isBlank ·) = []
  · simp [htype]
  · rw [if_neg htype, gapMatches_eq]
    by_cases hgap : statement.dropWhile (!Text.isBlank ·) = []
    · simp [hgap]
    · rw [if_neg (Text.takeWhile_isBlank_ne_nil hgap),
        head?_identifierMatches_nil hafter fun c hc => Text.head?_dropWhile hc]
      exact (if_neg (not_or.2 ⟨htype, hgap⟩)).symm

/-- A trimmed text ends with no blank. -/
theorem endsSolid_trim (s : Text) : EndsSolid (Text.trim s) := by
  intro c (hc : (Text.trimRight (Text.trimLeft s)).getLast? = some c)
  rw [Text.trimRight, List.getLast?_reverse] at hc
  exact Text.head?_dropWhile hc

/-- The syntax phase cuts every statement of a source as the first match under backtracking does. -/
theorem head?_allMatches_of_mem_split {source statement : Text} (h : statement ∈ split source) :
    (allMatches statement).head? = cut? statement := by
  rw [split, List.mem_filter, List.mem_map] at h
  obtain ⟨⟨piece, -, rfl⟩, -⟩ := h
  exact head?_allMatches (endsSolid_trim piece)

/-- Of the three ways to match, the first has the shortest identifier. -/
example : (allMatches "int a=b==1".toList).map (·.identifier) =
    ["a".toList, "a=b".toList, "a=b=".toList] := by decide

end Statement

end DeclLang
