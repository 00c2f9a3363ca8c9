import DeclLang.Proofs.NumberShape
import DeclLang.Proofs.StatementSplit
import DeclLang.Proofs.TokenTiling

/-!
# Literals as tokens

The type of a literal is inferred from its whole text, while the lexical phase knows literals as
fronts of texts, by productions that are tried in turn. Both know the same literals as long as there
is no newline: a trimmed text has a type just when it is a single token of a kind that literals have,
and the type belongs to the kind.
-/

namespace DeclLang

namespace Quoted

variable {quote : Char} {s w : Text}

/-- Whether newlines are allowed in a literal does not matter where there are none. -/
theorem tail?_of_newline_notMem (h : '\n' ∉ s) : tail? quote true s = tail? quote false s := by
  fun_induction tail? quote false s with
  | case1 | case2 => rfl
  | case3 rest => simp at h
  | case4 c rest hc ih =>
    simp only [List.mem_cons, not_or] at h
    simp [tail?, hc, ih h.2.2]
  | case5 rest hlone hpair =>
    rw [tail?_cons (ne_backslash hlone hpair), if_pos rfl]
  | case6 c rest hlone hpair hne hnewline => simp [hnewline.1] at h
  | case7 c rest hlone hpair hne hnewline ih =>
    simp only [List.mem_cons, not_or] at h
    rw [tail?_cons (ne_backslash hlone hpair), if_neg hne, if_neg (by simp), ih h.2]

/-- Whether newlines are allowed in a literal does not matter where there are none. -/
theorem front?_of_newline_notMem (h : '\n' ∉ s) : front? quote true s = front? quote false s := by
  cases s with
  | nil => rfl
  | cons c rest =>
    have hrest : '\n' ∉ rest := fun hmem => h (List.mem_cons_of_mem c hmem)
    rw [front?, front?, tail?_of_newline_notMem hrest]

/-- A text is a literal just when nothing is behind the end of the literal at its front. -/
theorem front?_eq_self_iff {newlines : Bool} :
    front? quote newlines w = some w ↔ ∃ u, w = quote :: u ∧ tail? quote newlines u = some u := by
  rw [front?_eq_some_iff]
  constructor
  · intro ⟨rest, u, hrest, hu, hw⟩
    obtain ⟨-, rfl⟩ := List.cons.inj (hrest.symm.trans hw)
    exact ⟨rest, hrest, hu⟩
  · intro ⟨u, hw, hu⟩
    exact ⟨u, u, hw, hu, hw⟩

end Quoted

/-- The boolean literals are the words of their kind. -/
theorem Word.isBoolean_iff {w : Text} : isBoolean w ↔ .boolean = kind w ∧ isIdentifier w := by
  unfold kind
  split_ifs with hboolean hreserved
  · rcases isBoolean_iff_eq.1 hboolean with rfl | rfl <;> decide
  · simp [hboolean]
  · simp [hboolean]

namespace Literal

open Quoted (front? tail? tail?_cons)

/-- The texts of the shape of characters are the literals between single quotes that hold one
character. -/
theorem isChar_iff {w : Text} :
    isChar w ↔ front? '\'' true w = some w ∧ Quoted.isSingle (Quoted.content w) := by
  constructor
  · intro hchar
    unfold isChar at hchar
    split at hchar
    · rename_i opening c closing
      simp only [Bool.and_eq_true, decide_eq_true_eq] at hchar
      obtain ⟨⟨⟨rfl, rfl⟩, hquote⟩, hbackslash⟩ := hchar
      refine ⟨?_, by simpa [Quoted.content, Quoted.isSingle] using hbackslash⟩
      simp [front?, tail?_cons hbackslash, hquote, tail?_cons]
    · rename_i opening mark c closing
      simp only [Bool.and_eq_true, decide_eq_true_eq] at hchar
      obtain ⟨⟨⟨rfl, rfl⟩, rfl⟩, hc⟩ := hchar
      exact ⟨by simp [front?, tail?, hc], rfl⟩
    · contradiction
  · rintro ⟨hfront, hsingle⟩
    obtain ⟨u, rfl, htail⟩ := Quoted.front?_eq_self_iff.1 hfront
    obtain ⟨body, rfl, -⟩ := Quoted.tail?_eq_append htail
    rw [Quoted.content_eq] at hsingle
    unfold Quoted.isSingle at hsingle
    split at hsingle
    · rename_i c
      have hbackslash : c ≠ '\\' := by simpa using hsingle
      have hquote : c ≠ '\'' := by
        rintro rfl
        simp [tail?_cons] at htail
      simp [isChar, hquote, hbackslash]
    · rename_i mark c
      obtain rfl : mark = '\\' := by simpa using hsingle
      have hc : c ≠ '\n' := by
        rintro rfl
        simp [tail?] at htail
      simpa [isChar] using hc
    · contradiction

end Literal

namespace Token

/-- The kinds of literals. -/
def Kind.literals : List Kind := [.string, .char, .number, .boolean]

variable {kind : Kind} {w rest : Text}

/-- The lexeme of a kind is the front that the productions of this kind match. -/
theorem isRead_iff : IsRead kind w rest ↔
    (kind = .string ∧ Quoted.front? '"' false (w ++ rest) = some w) ∨
    (kind = .char ∧ Quoted.front? '\'' false (w ++ rest) = some w ∧
      Quoted.isSingle (Quoted.content w)) ∨
    (kind = .number ∧ ∃ p, Number.first? (w ++ rest) = some (p, w)) ∨
    (kind = Word.kind w ∧ Word.front? (w ++ rest) = some w) ∨
    (kind = (if w = ['='] then .operator else .punctuation) ∧
      Production.symbolFront? (w ++ rest) = some w) := by
  unfold IsRead
  constructor
  · intro ⟨production, hfirst, hkind⟩
    rcases Production.first?_eq_some_iff.1 hfirst with
      ⟨rfl, h⟩ | ⟨rfl, h⟩ | h | ⟨rfl, h⟩ | ⟨rfl, h⟩
    · exact .inl ⟨(Except.ok.inj hkind).symm, h⟩
    · simp only [classify] at hkind
      split at hkind
      · exact .inr (.inl ⟨(Except.ok.inj hkind).symm, h, ‹_›⟩)
      · contradiction
    · obtain ⟨-, rfl, -, -⟩ := Number.first?_eq_some h
      rw [classify_number] at hkind
      exact .inr (.inr (.inl ⟨(Except.ok.inj hkind).symm, _, h⟩))
    · exact .inr (.inr (.inr (.inl ⟨(Except.ok.inj hkind).symm, h⟩)))
    · exact .inr (.inr (.inr (.inr ⟨(Except.ok.inj hkind).symm, h⟩)))
  · simp only [Production.first?_eq_some_iff]
    rintro (⟨rfl, h⟩ | ⟨rfl, h, hsingle⟩ | ⟨rfl, p, h⟩ | ⟨rfl, h⟩ | ⟨rfl, h⟩)
    · exact ⟨.stringLiteral, .inl ⟨rfl, h⟩, rfl⟩
    · exact ⟨.charLiteral, .inr (.inl ⟨rfl, h⟩), if_pos hsingle⟩
    · obtain ⟨-, rfl, -, -⟩ := Number.first?_eq_some h
      exact ⟨_, .inr (.inr (.inl h)), classify_number _ _⟩
    · exact ⟨.word, .inr (.inr (.inr (.inl ⟨rfl, h⟩))), rfl⟩
    · exact ⟨.symbol, .inr (.inr (.inr (.inr ⟨rfl, h⟩))), rfl⟩

/-- A text that is read as one lexeme is a single token. -/
theorem lex_of_isRead (h : IsRead kind w []) : lex w = .ok [⟨kind, w, 0, w.byteSize⟩] := by
  have hr : Reading.IsReadBefore [] [.token kind w] := ⟨h, trivial⟩
  simpa [Reading.tokensFrom, Stretch.tokensAt, Stretch.text] using Reading.lex_text hr

/-- A text that is a single token is read as one lexeme. -/
theorem isRead_of_lex {t : Token} (h : lex w = .ok [t]) (hw : t.lexeme = w) :
    IsRead t.kind w [] := by
  obtain ⟨r, htext, hr, htokens⟩ := lex_eq_ok_iff.1 h
  have hmem : t ∈ r.tokensFrom 0 := by simp [htokens]
  obtain ⟨r₁, r₂, rfl, -, -⟩ := Reading.exists_of_mem_tokensFrom hmem
  -- the lexeme is as long as the text, so nothing stands beside it
  have hlength := congrArg List.length (htext.trans hw.symm)
  simp only [Reading.text_append, Reading.text_cons, Stretch.text, List.length_append] at hlength
  have hafter : Reading.text r₂ = [] := List.eq_nil_of_length_eq_zero (by omega)
  have hread := (Reading.isReadBefore_append.1 hr).2.1
  rwa [hafter, List.append_nil, hw] at hread

end Token

/-- The kind of the literals of a type. -/
def PrimitiveType.literalKind : PrimitiveType → Token.Kind
  | .string => .string
  | .char => .char
  | .boolean => .boolean
  | .byte | .short | .int | .long | .float | .double => .number

namespace Literal

/-- A text has a shape of the literals of a kind. -/
def HasShape : Token.Kind → Text → Prop
  | .string, e => isString e
  | .char, e => isChar e
  | .number, e => IsNumber e
  | .boolean, e => Word.isBoolean e
  | _, _ => False

variable {e w : Text} {kind : Token.Kind} {type : PrimitiveType}

/-- The types of integers are numeric. -/
theorem literalKind_narrowest (value : Int) : (narrowest value).literalKind = .number := by
  unfold narrowest
  split_ifs <;> rfl

/-- A literal has a shape of the kind that its type belongs to. -/
theorem hasShape_of_infer (h : infer e = some type) : HasShape type.literalKind (Text.trim e) := by
  simp only [infer] at h
  split_ifs at h with hboolean hstring hchar hfloat hdouble hlong hinteger <;> cases h
  · exact hboolean
  · exact hstring
  · exact hchar
  · exact .inl hfloat
  · exact .inr (.inl hdouble)
  · exact .inr (.inr (.inl hlong))
  · have hkind : ((Number.value? (Text.trim e)).map narrowest |>.getD .long).literalKind =
        .number := by
      cases Number.value? (Text.trim e) with
      | none => rfl
      | some value => exact literalKind_narrowest value
    rw [hkind]
    exact .inr (.inr (.inr hinteger))

/-- A text that has a shape of literals has a type. -/
theorem exists_infer_of_hasShape (h : HasShape kind (Text.trim e)) :
    ∃ type, infer e = some type := by
  simp only [infer]
  split_ifs with hboolean hstring hchar hfloat hdouble hlong hinteger
  all_goals try exact ⟨_, rfl⟩
  cases kind <;> simp_all [HasShape, IsNumber]

/-- Without newlines the shapes of a kind of literals are what the lexical phase reads as one lexeme
of that kind. -/
theorem hasShape_iff (h : '\n' ∉ w) :
    HasShape kind w ↔ kind ∈ Token.Kind.literals ∧ Token.IsRead kind w [] := by
  have hword := Word.kind_ne_literal w
  have hnumber : Word.kind w ≠ .number := by
    unfold Word.kind
    split_ifs <;> simp
  have hmark (k : Token.Kind) (hk : k ∈ Token.Kind.literals) :
      k ≠ if w = ['='] then .operator else .punctuation := by
    split_ifs <;> rintro rfl <;> simp [Token.Kind.literals] at hk
  rw [Token.isRead_iff, List.append_nil]
  cases kind with
  | string =>
    simp [HasShape, isString, Quoted.front?_of_newline_notMem h, Ne.symm hword.1,
      hmark .string (by decide), Token.Kind.literals]
  | char =>
    simp [HasShape, isChar_iff, Quoted.front?_of_newline_notMem h, Ne.symm hword.2,
      hmark .char (by decide), Token.Kind.literals]
  | number =>
    simp [HasShape, isNumber_iff, Ne.symm hnumber, hmark .number (by decide), Token.Kind.literals]
  | boolean =>
    simp [HasShape, Word.front?_eq_self, Word.isBoolean_iff, hmark .boolean (by decide),
      Token.Kind.literals]
  | identifier | keyword | operator | punctuation => simp [HasShape, Token.Kind.literals]

end Literal

/-- Inference and the lexical phase agree on literals. An expression without newlines has a type
just when it is, without its outer blanks, a single token of a kind of literals, and the kind of the
token is the one of the type. -/
theorem infer_agrees_with_lex {e : Text} (h : '\n' ∉ e) :
    ((∃ type, Literal.infer e = some type) ↔
      ∃ t, lex (Text.trim e) = .ok [t] ∧ t.lexeme = Text.trim e ∧ t.kind ∈ Token.Kind.literals) ∧
    ∀ type t, Literal.infer e = some type → lex (Text.trim e) = .ok [t] →
      (t.kind = .string ↔ type = .string) ∧ (t.kind = .char ↔ type = .char) ∧
      (t.kind = .boolean ↔ type = .boolean) ∧
      (t.kind = .number ↔ type ∈ [.byte, .short, .int, .long, .float, .double]) := by
  have hw : '\n' ∉ Text.trim e := fun hmem => h ((Text.trim_isInfix e).subset hmem)
  have hread {type : PrimitiveType} (htype : Literal.infer e = some type) :
      type.literalKind ∈ Token.Kind.literals ∧ Token.IsRead type.literalKind (Text.trim e) [] :=
    (Literal.hasShape_iff hw).1 (Literal.hasShape_of_infer htype)
  constructor
  · constructor
    · intro ⟨type, htype⟩
      obtain ⟨hkind, hlexeme⟩ := hread htype
      exact ⟨_, Token.lex_of_isRead hlexeme, rfl, hkind⟩
    · intro ⟨t, hlex, hlexeme, hkind⟩
      have hshape := (Literal.hasShape_iff hw).2 ⟨hkind, Token.isRead_of_lex hlex hlexeme⟩
      exact Literal.exists_infer_of_hasShape hshape
  · intro type t htype hlex
    have htokens := Except.ok.inj (hlex.symm.trans (Token.lex_of_isRead (hread htype).2))
    have ht : t.kind = type.literalKind := by rw [(List.cons.inj htokens).1]
    rw [ht]
    cases type <;> decide

/-- Digits of another script, a point and the suffix letter of `float`, between a blank and a tab. -/
theorem infer_agrees_with_lex_foreign_float :
    '\n' ∉ " -٣.٤f\t".toList ∧
    Literal.infer " -٣.٤f\t".toList = some .float ∧
    ∃ t, lex (Text.trim " -٣.٤f\t".toList) = .ok [t] ∧ t.kind = .number := by
  have hnewline : '\n' ∉ " -٣.٤f\t".toList := by decide
  have htype : Literal.infer " -٣.٤f\t".toList = some .float := by decide +kernel
  obtain ⟨hiff, hkinds⟩ := infer_agrees_with_lex hnewline
  obtain ⟨t, hlex, -, -⟩ := hiff.1 ⟨_, htype⟩
  exact ⟨hnewline, htype, t, hlex, (hkinds _ t htype hlex).2.2.2.2 (by decide)⟩

end DeclLang
