import DeclLang.Proofs.FirstProduction

/-!
# Lexemes

What `Token.read` finds at the front of a text, said without offsets: a lexeme of a kind is read
before a rest. Its form follows from its kind, and it neither starts nor ends with a character that
could belong to what separates tokens.
-/

namespace DeclLang

namespace Word

/-- The kind of a word. -/
def kind (word : Text) : Token.Kind :=
  if isBoolean word then .boolean else if isReserved word then .keyword else .identifier

/-- A word is no literal. -/
theorem kind_ne_literal (word : Text) : kind word ≠ .string ∧ kind word ≠ .char := by
  unfold kind
  split_ifs <;> simp

end Word

namespace Token

/-- A lexeme is read, with a kind, in front of a rest. -/
def IsRead (kind : Kind) (lexeme rest : Text) : Prop :=
  ∃ production, Production.first? (lexeme ++ rest) = some (production, lexeme) ∧
    classify production lexeme = .ok kind

/-- The forms a lexeme of a kind can have. -/
inductive Form : Kind → Text → Prop
  | literal {kind : Kind} {quote : Char} {tail : Text} :
      kind = .string ∧ quote = '"' ∨ kind = .char ∧ quote = '\'' →
      Quoted.tail? quote false tail = some tail → Form kind (quote :: tail)
  | number {c : Char} {digits : Text} :
      (∀ d ∈ c :: digits, d ∈ ['-', '.', 'f', 'F', 'd', 'D', 'l', 'L'] ∨ Text.isDigit d) →
      Form .number (c :: digits)
  | word {word : Text} : Word.isIdentifier word → Form (Word.kind word) word
  | operator : Form .operator ['=']
  | punctuation {c : Char} : c ∈ [';', ','] → Form .punctuation [c]

/-- A token is read at the front of a text exactly when its lexeme is, with its span placed
there. -/
theorem read_eq_ok_iff {offset : Nat} {s : Text} {t : Token} :
    read offset s = .ok t ↔
      ∃ rest, s = t.lexeme ++ rest ∧ IsRead t.kind t.lexeme rest ∧
        t = ⟨t.kind, t.lexeme, offset, offset + Text.byteSize t.lexeme⟩ := by
  constructor
  · intro h
    obtain ⟨⟨⟨rest, hrest⟩, -⟩, hstart, hstop⟩ := read_eq_ok h
    unfold read at h
    split at h
    · contradiction
    · rename_i production lexeme hfirst
      split at h
      · contradiction
      · rename_i kind hkind
        cases h
        exact ⟨rest, hrest.symm, ⟨production, by rw [hrest, hfirst], hkind⟩, rfl⟩
  · rintro ⟨rest, rfl, ⟨production, hfirst, hkind⟩, ht⟩
    rw [read, hfirst]
    simp only [hkind]
    exact congrArg _ ht.symm

/-- Only a character literal that does not hold one character is refused. -/
theorem classify_eq_error_iff {production : Production} {w : Text} {cause : LexicalError.Cause} :
    classify production w = .error cause ↔
      production = .charLiteral ∧ Quoted.isSingle (Quoted.content w) = false ∧
        cause = .badCharLiteral w := by
  cases production with
  | charLiteral =>
    cases hsingle : Quoted.isSingle (Quoted.content w) <;> simp [classify, hsingle, eq_comm]
  | _ => simp [classify]

/-- No token can be read at the front of a text when no production matches there, or when the first
one is a character literal that does not hold one character. -/
theorem read_eq_error_iff {offset : Nat} {s : Text} {cause : LexicalError.Cause} :
    read offset s = .error cause ↔
      Production.first? s = none ∧ cause = .unmatched s ∨
      ∃ w, Production.first? s = some (.charLiteral, w) ∧
        Quoted.isSingle (Quoted.content w) = false ∧ cause = .badCharLiteral w := by
  unfold read
  cases hfirst : Production.first? s with
  | none => simpa using eq_comm
  | some found =>
    obtain ⟨production, lexeme⟩ := found
    have hrefused : (∃ w, some (production, lexeme) = some (.charLiteral, w) ∧
        Quoted.isSingle (Quoted.content w) = false ∧ cause = .badCharLiteral w) ↔
        classify production lexeme = .error cause := by
      rw [classify_eq_error_iff]
      constructor
      · intro ⟨w, hw, hsingle, hcause⟩
        obtain ⟨rfl, rfl⟩ := Prod.mk.inj (Option.some.inj hw)
        exact ⟨rfl, hsingle, hcause⟩
      · intro ⟨hliteral, hsingle, hcause⟩
        exact ⟨lexeme, by rw [hliteral], hsingle, hcause⟩
    rw [hrefused]
    cases hkind : classify production lexeme <;> simp [hkind]

/-- That no token can be read has nothing to do with the offset. -/
theorem read_eq_error {offset : Nat} {s : Text} {cause : LexicalError.Cause}
    (h : read offset s = .error cause) (offset' : Nat) : read offset' s = .error cause :=
  read_eq_error_iff.2 (read_eq_error_iff.1 h)

/-- Every number has the kind of numbers. -/
theorem classify_number (n : Numeral) (w : Text) :
    classify (Number.production n) w = .ok .number := by
  unfold Number.production
  split_ifs <;> rfl

/-- A lexeme has the form of its kind. -/
theorem IsRead.form {kind : Kind} {w rest : Text} (h : IsRead kind w rest) : Form kind w := by
  obtain ⟨production, hfirst, hkind⟩ := h
  rcases Production.first?_eq_some_iff.1 hfirst with
    ⟨rfl, h⟩ | ⟨rfl, h⟩ | h | ⟨rfl, h⟩ | ⟨rfl, h⟩
  · obtain ⟨tail, rfl, htail⟩ := Quoted.front?_eq_some (by decide) h
    cases hkind
    exact .literal (.inl ⟨rfl, rfl⟩) htail
  · obtain ⟨tail, rfl, htail⟩ := Quoted.front?_eq_some (by decide) h
    simp only [classify] at hkind
    split at hkind
    · cases hkind
      exact .literal (.inr ⟨rfl, rfl⟩) htail
    · contradiction
  · obtain ⟨-, rfl, -, -⟩ := Number.first?_eq_some h
    rw [classify_number] at hkind
    cases hkind
    obtain ⟨c, digits, rfl⟩ := List.exists_cons_of_ne_nil (Production.first?_isFront hfirst).2
    exact .number fun d hd => Number.mem_first? h hd
  · cases hkind
    exact .word (Word.front?_append_iff.1 h).1
  · obtain ⟨c, hc, -, rfl⟩ := Production.symbolFront?_eq_some_iff.1 h
    cases hkind
    by_cases heq : c = '='
    · subst heq
      exact .operator
    · simp only [List.cons.injEq, heq, false_and, if_false]
      exact .punctuation (List.mem_of_ne_of_mem heq hc)

/-- A lexeme that is no literal consists of solid characters. -/
theorem Form.isSolid {kind : Kind} {w : Text} (h : Form kind w) (hstring : kind ≠ .string)
    (hchar : kind ≠ .char) : ∀ c ∈ w, Text.IsSolid c := by
  cases h with
  | literal hquote => exact (hquote.elim (absurd ·.1 hstring) (absurd ·.1 hchar))
  | number h => exact fun c hc => Number.isSolid_of_mem (h c hc)
  | word h => exact fun c hc => Word.isSolid_of_isPart (Word.isPart_of_isIdentifier h c hc)
  | operator =>
    intro c hc
    rw [List.mem_singleton.1 hc]
    decide
  | punctuation h =>
    intro c hc
    rw [List.mem_singleton.1 hc]
    simp only [List.mem_cons, List.not_mem_nil, or_false] at h
    rcases h with rfl | rfl <;> decide

/-- A lexeme is not empty. -/
theorem Form.ne_nil {kind : Kind} {w : Text} (h : Form kind w) : w ≠ [] := by
  cases h with
  | word h =>
    rintro rfl
    simp [Word.isIdentifier] at h
  | _ => simp

/-- A lexeme starts and ends with characters that separate no tokens. -/
theorem Form.isEdge {kind : Kind} {w : Text} (h : Form kind w) {c : Char}
    (hc : c ∈ w.head? ∨ c ∈ w.getLast?) : Text.IsEdge c := by
  have hinner (hstring : kind ≠ .string) (hchar : kind ≠ .char) : Text.IsEdge c :=
    (h.isSolid hstring hchar c
      (hc.elim List.mem_of_mem_head? List.mem_of_mem_getLast?)).isEdge
  cases h with
  | @literal _ quote _ hquote htail =>
    obtain ⟨body, rfl, -⟩ := Quoted.tail?_eq_append htail
    have hlast : (quote :: (body ++ [quote])).getLast? = some quote := by
      rw [← List.cons_append, List.getLast?_concat]
    have hceq : quote = c := by simpa [hlast] using hc
    rcases hquote with ⟨-, rfl⟩ | ⟨-, rfl⟩ <;> rw [← hceq] <;> decide
  | number => exact hinner (by simp) (by simp)
  | word => exact hinner (Word.kind_ne_literal _).1 (Word.kind_ne_literal _).2
  | operator => exact hinner (by simp) (by simp)
  | punctuation => exact hinner (by simp) (by simp)

/-- A text that starts with a lexeme starts with a character that separates no tokens. -/
theorem Form.isEdge_head {kind : Kind} {w : Text} (h : Form kind w) (s : Text) :
    ∀ c ∈ (w ++ s).head?, Text.IsEdge c := by
  obtain ⟨d, w, rfl⟩ := List.exists_cons_of_ne_nil h.ne_nil
  exact fun c hc => h.isEdge (.inl hc)

/-- Only the mark itself and literals hold a semicolon. -/
theorem Form.eq_semicolon {kind : Kind} {w : Text} (h : Form kind w) (hstring : kind ≠ .string)
    (hchar : kind ≠ .char) (hmem : ';' ∈ w) : kind = .punctuation ∧ w = [';'] := by
  cases h with
  | literal hquote => exact (hquote.elim (absurd ·.1 hstring) (absurd ·.1 hchar))
  | number h => exact absurd (h ';' hmem) (by decide)
  | word h => exact absurd (Word.isPart_of_isIdentifier h ';' hmem) (by decide)
  | operator => simp at hmem
  | punctuation => exact ⟨rfl, by rw [List.mem_singleton.1 hmem]⟩

/-- A lexeme is read again when the text behind it changes to one that breaks like it. -/
theorem IsRead.of_breaksLike {kind : Kind} {w s t : Text} (h : IsRead kind w s)
    (ht : t.BreaksLike s) : IsRead kind w t := by
  obtain ⟨production, hfirst, hkind⟩ := h
  exact ⟨production, Production.first?_append hfirst ht, hkind⟩

/-- The lexeme at the front of a text is determined by the text. -/
theorem IsRead.unique {kind kind' : Kind} {w w' rest rest' : Text} (h : IsRead kind w rest)
    (h' : IsRead kind' w' rest') (heq : w ++ rest = w' ++ rest') :
    kind = kind' ∧ w = w' ∧ rest = rest' := by
  obtain ⟨production, hfirst, hkind⟩ := h
  obtain ⟨production', hfirst', hkind'⟩ := h'
  rw [heq, hfirst'] at hfirst
  cases hfirst
  rw [hkind'] at hkind
  cases hkind
  exact ⟨rfl, rfl, List.append_cancel_left heq⟩

/-- An identifier that ends where words end is read as a word. -/
theorem isRead_word {w rest : Text} (hw : Word.isIdentifier w)
    (hrest : ∀ c ∈ rest.head?, Word.isPart c = false) : IsRead (Word.kind w) w rest := by
  refine ⟨.word, Production.first?_eq_some_iff.2 ?_, rfl⟩
  exact .inr (.inr (.inr (.inl ⟨rfl, Word.front?_append_iff.2 ⟨hw, hrest⟩⟩)))

/-- The sign of equality is read whatever follows it. -/
theorem isRead_operator (rest : Text) : IsRead .operator ['='] rest := by
  refine ⟨.symbol, Production.first?_eq_some_iff.2 ?_, rfl⟩
  exact .inr (.inr (.inr (.inr ⟨rfl, rfl⟩)))

/-- A word that is read ends where words end. -/
theorem IsRead.head?_of_word {kind : Kind} {w rest : Text} (h : IsRead kind w rest)
    (hw : Word.isIdentifier w) : kind = Word.kind w ∧ ∀ c ∈ rest.head?, Word.isPart c = false := by
  have hsplit := List.takeWhile_append_dropWhile (p := Word.isPart) (l := rest)
  have hlonger : Word.isIdentifier (w ++ rest.takeWhile Word.isPart) := by
    cases w with
    | nil => simp [Word.isIdentifier] at hw
    | cons c w =>
      simp only [Word.isIdentifier, Bool.and_eq_true, List.cons_append, List.all_append] at hw ⊢
      exact ⟨hw.1, hw.2, List.all_takeWhile⟩
  have hlongest : IsRead (Word.kind (w ++ rest.takeWhile Word.isPart))
      (w ++ rest.takeWhile Word.isPart) (rest.dropWhile Word.isPart) :=
    isRead_word hlonger fun c hc => Text.head?_dropWhile hc
  obtain ⟨hkind, hword, hrest⟩ := h.unique hlongest (by rw [List.append_assoc, hsplit])
  have hnil : rest.takeWhile Word.isPart = [] := by simpa using hword
  rw [hnil, List.append_nil] at hkind
  refine ⟨hkind, ?_⟩
  rw [hrest]
  exact fun c hc => Text.head?_dropWhile hc

end Token

end DeclLang
