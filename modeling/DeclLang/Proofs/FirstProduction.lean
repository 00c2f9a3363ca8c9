import DeclLang.Proofs.Numeral
import DeclLang.Token.Lexer

/-!
# The first production

The productions fall into five families that start with different characters: the two literals,
numbers, words and marks. Hence the first production that matches at the front of a text is the
one of the only family that can match there, and what it takes does not change when the text
behind it is replaced by one that breaks like it.
-/

namespace DeclLang

namespace Quoted

/-- Without its quote in front there is no literal. -/
theorem front?_eq_none {quote : Char} {newlines : Bool} {s : Text} (h : s.head? ≠ some quote) :
    front? quote newlines s = none := by
  cases s with
  | nil => rfl
  | cons c rest => exact if_neg fun heq => h (by simp [heq])

/-- A text whose first character passes a test that the quote fails starts with no literal. -/
theorem front?_eq_none_of_test {quote c : Char} {newlines : Bool} {s : Text} {p : Char → Bool}
    (hc : c ∈ s.head?) (hp : p c) (hquote : p quote = false) : front? quote newlines s = none := by
  apply front?_eq_none
  intro hhead
  cases hc.symm.trans hhead
  rw [hp] at hquote
  contradiction

/-- A literal starts with its quote. -/
theorem head?_of_front? {quote : Char} {newlines : Bool} {s w : Text}
    (h : front? quote newlines s = some w) : s.head? = some quote := by
  by_contra hne
  simp [front?_eq_none hne] at h

/-- A character that is no backslash, alone or in front of another one, is no backslash. -/
theorem ne_backslash {c : Char} {rest : Text} (hlone : c = '\\' → rest = [] → False)
    (hpair : ∀ d tail, c = '\\' → rest = d :: tail → False) : c ≠ '\\' := by
  intro hc
  cases rest with
  | nil => exact hlone hc rfl
  | cons d tail => exact hpair d tail hc rfl

/-- A character that protects nothing is taken as it is. -/
theorem tail?_cons {quote c : Char} {newlines : Bool} {rest : Text} (hc : c ≠ '\\') :
    tail? quote newlines (c :: rest) =
      if c = quote then some [c]
      else if c = '\n' ∧ !newlines then none
      else (tail? quote newlines rest).map (c :: ·) := by
  rw [tail?.eq_def]
  split <;> simp_all

/-- A character that protects nothing is stepped over by itself. -/
theorem closing?_cons {quote c : Char} {rest : Text} (hc : c ≠ '\\') :
    closing? quote (c :: rest) =
      if c = '\n' then none
      else if c = quote then some [c]
      else (closing? quote rest).map (c :: ·) := by
  rw [closing?.eq_def]
  split <;> simp_all

/-- The rest of a literal ends with its quote and holds a newline before that only where newlines
are allowed. -/
theorem tail?_eq_append {quote : Char} {newlines : Bool} {s w : Text}
    (h : tail? quote newlines s = some w) :
    ∃ body, w = body ++ [quote] ∧ (newlines = false → '\n' ∉ body) := by
  fun_induction tail? quote newlines s generalizing w with
  | case1 | case2 | case3 | case6 => simp at h
  | case4 c rest hc ih =>
    obtain ⟨u, hu, rfl⟩ := Option.map_eq_some_iff.1 h
    obtain ⟨body, rfl, hbody⟩ := ih hu
    exact ⟨'\\' :: c :: body, rfl, fun hnone => by simp [Ne.symm hc, hbody hnone]⟩
  | case5 rest =>
    cases h
    exact ⟨[], rfl, by simp⟩
  | case7 c rest _ _ _ hc ih =>
    obtain ⟨u, hu, rfl⟩ := Option.map_eq_some_iff.1 h
    obtain ⟨body, rfl, hbody⟩ := ih hu
    exact ⟨c :: body, rfl, fun hnone => by simp_all [eq_comm]⟩

/-- The rest of a literal is found again whatever follows it. -/
theorem tail?_append {quote : Char} {newlines : Bool} {s w : Text} (hquote : quote ≠ '\\')
    (h : tail? quote newlines s = some w) (t : Text) : tail? quote newlines (w ++ t) = some w := by
  fun_induction tail? quote newlines s generalizing w with
  | case1 | case2 | case3 | case6 => simp at h
  | case4 c rest hc ih =>
    obtain ⟨u, hu, rfl⟩ := Option.map_eq_some_iff.1 h
    simp [tail?, hc, ih hu]
  | case5 rest =>
    cases h
    simp [tail?_cons hquote]
  | case7 c rest hlone hpair hne hnewline ih =>
    obtain ⟨u, hu, rfl⟩ := Option.map_eq_some_iff.1 h
    have hc := ne_backslash hlone hpair
    rw [List.cons_append, tail?_cons hc, if_neg hne, if_neg hnewline, ih hu, Option.map_some]

/-- A literal without newlines is also stepped over in the search for comments. -/
theorem closing?_of_tail? {quote : Char} {s w : Text} (hquote : quote ≠ '\\')
    (hnewline : quote ≠ '\n') (h : tail? quote false s = some w) : closing? quote s = some w := by
  fun_induction tail? quote false s generalizing w with
  | case1 | case2 | case3 | case6 => simp at h
  | case4 c rest hc ih =>
    obtain ⟨u, hu, rfl⟩ := Option.map_eq_some_iff.1 h
    simp [closing?, ih hu]
  | case5 rest =>
    cases h
    simp [closing?_cons hquote, hnewline]
  | case7 c rest hlone hpair hne hbreak ih =>
    obtain ⟨u, hu, rfl⟩ := Option.map_eq_some_iff.1 h
    have hc := ne_backslash hlone hpair
    rw [closing?_cons hc, ih hu]
    simp_all

/-- What is read of a literal is its quote and the rest. -/
theorem front?_eq_some_iff {quote : Char} {newlines : Bool} {s w : Text} :
    front? quote newlines s = some w ↔
      ∃ rest u, s = quote :: rest ∧ tail? quote newlines rest = some u ∧ w = quote :: u := by
  cases s with
  | nil => simp [front?]
  | cons c rest =>
    simp only [front?, Option.ite_none_right_eq_some, Option.map_eq_some_iff, List.cons.injEq]
    constructor
    · rintro ⟨rfl, u, hu, rfl⟩
      exact ⟨rest, u, ⟨rfl, rfl⟩, hu, rfl⟩
    · rintro ⟨rest, u, ⟨rfl, rfl⟩, hu, rfl⟩
      exact ⟨rfl, u, hu, rfl⟩

/-- A literal is its quote and a rest that is closed by itself. -/
theorem front?_eq_some {quote : Char} {newlines : Bool} {s w : Text} (hquote : quote ≠ '\\')
    (h : front? quote newlines s = some w) :
    ∃ u, w = quote :: u ∧ tail? quote newlines u = some u := by
  obtain ⟨rest, u, -, hu, rfl⟩ := front?_eq_some_iff.1 h
  exact ⟨u, rfl, by simpa using tail?_append hquote hu []⟩

/-- A literal is found again whatever follows it. -/
theorem front?_append {quote : Char} {newlines : Bool} {s w : Text} (hquote : quote ≠ '\\')
    (h : front? quote newlines s = some w) (t : Text) :
    front? quote newlines (w ++ t) = some w := by
  obtain ⟨rest, u, -, hu, rfl⟩ := front?_eq_some_iff.1 h
  exact front?_eq_some_iff.2 ⟨u ++ t, u, rfl, tail?_append hquote hu t, rfl⟩

/-- The content of a literal stands between its quotes. -/
theorem content_eq {quote : Char} (body : Text) : content (quote :: (body ++ [quote])) = body := by
  rw [content, List.tail_cons, List.dropLast_concat]

/-- A literal holds one character when its content is one, or a backslash with one behind it. -/
theorem isSingle_content_iff {quote : Char} {newlines : Bool} {s w : Text} (hquote : quote ≠ '\\')
    (h : front? quote newlines s = some w) :
    isSingle (content w) ↔ (∃ c, content w = [c]) ∨ ∃ c, content w = ['\\', c] := by
  obtain ⟨u, rfl, hu⟩ := front?_eq_some hquote h
  obtain ⟨body, rfl, -⟩ := tail?_eq_append hu
  rw [content_eq]
  constructor
  · intro hsingle
    unfold isSingle at hsingle
    split at hsingle
    · exact .inl ⟨_, rfl⟩
    · simp_all
    · contradiction
  · rintro (⟨c, rfl⟩ | ⟨c, rfl⟩)
    · have hc : c ≠ '\\' := by
        rintro rfl
        -- the backslash would take the closing quote along
        simp [tail?] at hu
      simpa [isSingle] using hc
    · rfl

end Quoted

namespace Word

/-- Without a letter or an underscore in front there is no word. -/
theorem front?_eq_none {s : Text} (h : ∀ c ∈ s.head?, isStart c = false) : front? s = none := by
  cases s with
  | nil => rfl
  | cons c rest => simp [front?, h c rfl]

/-- A word starts with a letter or an underscore. -/
theorem isStart_of_front? {s w : Text} (h : front? s = some w) : ∃ c ∈ s.head?, isStart c := by
  by_contra hnone
  rw [front?_eq_none fun c hc => by simpa using fun hstart => hnone ⟨c, hc, hstart⟩] at h
  contradiction

/-- The word at the front of a text is the longest identifier there. -/
theorem front?_append_iff {w s : Text} :
    front? (w ++ s) = some w ↔ isIdentifier w ∧ ∀ c ∈ s.head?, isPart c = false := by
  cases w with
  | nil =>
    refine iff_of_false ?_ (by simp [isIdentifier])
    intro h
    exact (front?_isFront h).2 rfl
  | cons c w =>
    simp only [List.cons_append, front?, Option.ite_none_right_eq_some, Option.some.injEq,
      List.cons.injEq, true_and, isIdentifier, Bool.and_eq_true, List.all_eq_true, and_assoc]
    refine and_congr_right fun _ => ⟨fun h => ?_, fun h => Text.takeWhile_append_eq h.1 h.2⟩
    have hall : ∀ c ∈ w, isPart c := fun c hc => List.mem_takeWhile_imp (h.symm ▸ hc)
    refine ⟨hall, fun c hc => ?_⟩
    rw [List.takeWhile_append_of_pos hall, List.append_right_eq_self] at h
    cases s with
    | nil => simp at hc
    | cons d s =>
      simp only [List.head?_cons, Option.mem_def, Option.some.injEq] at hc
      subst hc
      by_contra hpart
      simp [hpart] at h

end Word

namespace Number

/-- The characters a number may start with. -/
def isStart (c : Char) : Bool := c == '-' || c == '.' || Text.isDigit c

/-- A number starts with its sign, its point or a digit. -/
theorem isStart_of_first? {s w : Text} {p : Production} (h : first? s = some (p, w)) :
    ∃ c ∈ s.head?, isStart c := by
  obtain ⟨-, -, hbody, -⟩ := first?_eq_some h
  have hloss := Numeral.body_read_append_rest s
  obtain ⟨c, body, hc⟩ := List.exists_cons_of_ne_nil hbody
  have hhead : s.head? = some c := by
    rw [← hloss, hc]
    rfl
  refine ⟨c, hhead, ?_⟩
  rcases Numeral.mem_body (Numeral.isCut_read s) (c := c) (by simp [hc]) with rfl | rfl | hdigit
  · rfl
  · rfl
  · rw [isStart, hdigit, Bool.or_true]

/-- Without a character that may start a number there is no number. -/
theorem first?_eq_none {s : Text} (h : ∀ c ∈ s.head?, isStart c = false) : first? s = none := by
  rw [Option.eq_none_iff_forall_ne_some]
  rintro ⟨p, w⟩ hsome
  obtain ⟨c, hc, hstart⟩ := isStart_of_first? hsome
  simp [h c hc] at hstart

/-- No word starts with a character that may start a number. -/
theorem isStart_eq_false_of_isStart {c : Char} (h : Word.isStart c) : isStart c = false :=
  Word.forall_isPart (P := fun c => Word.isStart c → isStart c = false) (by decide)
    (Word.isPart_of_isStart h) h

end Number

namespace Production

/-- Neither a number nor a word starts with an operator or a punctuation mark. -/
theorem isStart_eq_false_of_symbol {c : Char} (hc : c ∈ ['=', ';', ',']) :
    Number.isStart c = false ∧ Word.isStart c = false := by
  simp only [List.mem_cons, List.not_mem_nil, or_false] at hc
  rcases hc with rfl | rfl | rfl <;> decide

/-- The mark at the front of a text is an operator or a punctuation mark. -/
theorem symbolFront?_eq_some_iff {s w : Text} :
    symbolFront? s = some w ↔ ∃ c ∈ ['=', ';', ','], s.head? = some c ∧ w = [c] := by
  cases s with
  | nil => simp [symbolFront?]
  | cons c rest =>
    simp only [symbolFront?, List.mem_cons, List.not_mem_nil, or_false, List.head?_cons,
      Option.ite_none_right_eq_some, Option.some.injEq]
    constructor
    · rintro ⟨hmark, rfl⟩
      exact ⟨c, hmark, rfl, rfl⟩
    · rintro ⟨c, hmark, rfl, rfl⟩
      exact ⟨hmark, rfl⟩

/-- The first production that matches matches what it is said to. -/
theorem front?_of_first? {s w : Text} {p : Production} (h : first? s = some (p, w)) :
    p.front? s = some w := by
  obtain ⟨q, -, hq⟩ := List.exists_of_findSome?_eq_some h
  obtain ⟨u, hu, heq⟩ := Option.map_eq_some_iff.1 hq
  obtain ⟨rfl, rfl⟩ := Prod.mk.inj heq
  exact hu

/-- No production matches just when there is no first one. -/
theorem first?_eq_none_iff {s : Text} :
    first? s = none ↔ ∀ production : Production, production.front? s = none := by
  have hall (production : Production) : production ∈ all := by cases production <;> decide
  simp [first?, hall]

/-- The first production belongs to the first family that matches. -/
theorem first?_eq_or (s : Text) :
    first? s =
      ((Quoted.front? '"' false s).map (stringLiteral, ·)).or
        (((Quoted.front? '\'' false s).map (charLiteral, ·)).or
          ((Number.first? s).or
            (((Word.front? s).map (word, ·)).or ((symbolFront? s).map (symbol, ·))))) := by
  have hall : all = [stringLiteral, charLiteral] ++
      ([floatWithSuffix, floatPlain, integerWithSuffix, integerPlain] ++ [word, symbol]) := rfl
  rw [first?, hall, List.findSome?_append, List.findSome?_append, Number.first?_eq]
  simp only [List.findSome?_cons, List.findSome?_nil, front?]
  cases (Quoted.front? '"' false s) <;> cases (Quoted.front? '\'' false s) <;>
    cases (Number.first? s) <;> cases (Word.front? s) <;> cases (symbolFront? s) <;> rfl

/-- A text that starts with a number starts with no literal. -/
theorem first?_of_number {s w : Text} {p : Production} (h : Number.first? s = some (p, w)) :
    first? s = some (p, w) := by
  obtain ⟨c, hc, hstart⟩ := Number.isStart_of_first? h
  have hquote (quote : Char) (hq : Number.isStart quote = false) :
      Quoted.front? quote false s = none := Quoted.front?_eq_none_of_test hc hstart hq
  rw [first?_eq_or, hquote '"' (by decide), hquote '\'' (by decide), h]
  rfl

/-- A text that starts with a word starts with neither a literal nor a number. -/
theorem first?_of_word {s w : Text} (h : Word.front? s = some w) : first? s = some (word, w) := by
  obtain ⟨c, hc, hstart⟩ := Word.isStart_of_front? h
  have hquote (quote : Char) (hq : Word.isStart quote = false) :
      Quoted.front? quote false s = none := Quoted.front?_eq_none_of_test hc hstart hq
  have hnumber : Number.first? s = none := by
    apply Number.first?_eq_none
    intro d hd
    cases hc.symm.trans hd
    exact Number.isStart_eq_false_of_isStart hstart
  rw [first?_eq_or, hquote '"' (by decide), hquote '\'' (by decide), hnumber, h]
  rfl

/-- A text that starts with an operator or a punctuation mark starts with nothing else. -/
theorem first?_of_symbol {s w : Text} (h : symbolFront? s = some w) :
    first? s = some (symbol, w) := by
  obtain ⟨c, hc, hhead, rfl⟩ := symbolFront?_eq_some_iff.1 h
  have hquote (quote : Char) (hq : quote ∉ ['=', ';', ',']) :
      Quoted.front? quote false s = none := by
    apply Quoted.front?_eq_none
    intro hhead'
    cases hhead.symm.trans hhead'
    exact hq hc
  have hnumber : Number.first? s = none := by
    apply Number.first?_eq_none
    intro d hd
    cases hhead.symm.trans hd
    exact (isStart_eq_false_of_symbol hc).1
  have hword : Word.front? s = none := by
    apply Word.front?_eq_none
    intro d hd
    cases hhead.symm.trans hd
    exact (isStart_eq_false_of_symbol hc).2
  rw [first?_eq_or, hquote '"' (by decide), hquote '\'' (by decide), hnumber, hword, h]
  rfl

/-- At most one family of productions matches at the front of a text. -/
theorem first?_eq_some_iff {s w : Text} {p : Production} :
    first? s = some (p, w) ↔
      (p = stringLiteral ∧ Quoted.front? '"' false s = some w) ∨
      (p = charLiteral ∧ Quoted.front? '\'' false s = some w) ∨
      Number.first? s = some (p, w) ∨
      (p = word ∧ Word.front? s = some w) ∨
      (p = symbol ∧ symbolFront? s = some w) := by
  constructor
  · rw [first?_eq_or]
    simp only [Option.or_eq_some_iff, Option.map_eq_some_iff, Prod.mk.injEq]
    rintro (⟨u, h, rfl, rfl⟩ | ⟨-, ⟨u, h, rfl, rfl⟩ | ⟨-, h | ⟨-, ⟨u, h, rfl, rfl⟩ |
      ⟨-, u, h, rfl, rfl⟩⟩⟩⟩)
    · exact .inl ⟨rfl, h⟩
    · exact .inr (.inl ⟨rfl, h⟩)
    · exact .inr (.inr (.inl h))
    · exact .inr (.inr (.inr (.inl ⟨rfl, h⟩)))
    · exact .inr (.inr (.inr (.inr ⟨rfl, h⟩)))
  · rintro (⟨rfl, h⟩ | ⟨rfl, h⟩ | h | ⟨rfl, h⟩ | ⟨rfl, h⟩)
    · rw [first?_eq_or, h]
      rfl
    · have hhead := Quoted.head?_of_front? h
      have hstring : Quoted.front? '"' false s = none := Quoted.front?_eq_none (by simp [hhead])
      rw [first?_eq_or, hstring, h]
      rfl
    · exact first?_of_number h
    · exact first?_of_word h
    · exact first?_of_symbol h

/-- What is matched at the front of a text consists of solid characters or stands between quotes,
with no newline in it. -/
theorem isSolid_or_quoted {s w : Text} {p : Production} (h : first? s = some (p, w)) :
    (∀ c ∈ w, Text.IsSolid c) ∨
      ∃ quote ∈ ['"', '\''], ∃ body, w = quote :: (body ++ [quote]) ∧ '\n' ∉ body := by
  have hliteral {quote : Char} (hquote : quote ∈ ['"', '\''])
      (hfront : Quoted.front? quote false s = some w) :
      ∃ quote ∈ ['"', '\''], ∃ body, w = quote :: (body ++ [quote]) ∧ '\n' ∉ body := by
    have hbackslash : quote ≠ '\\' := ne_of_mem_of_not_mem hquote (by decide)
    obtain ⟨u, rfl, hu⟩ := Quoted.front?_eq_some hbackslash hfront
    obtain ⟨body, rfl, hbody⟩ := Quoted.tail?_eq_append hu
    exact ⟨quote, hquote, body, rfl, hbody rfl⟩
  rcases first?_eq_some_iff.1 h with ⟨-, h⟩ | ⟨-, h⟩ | h | ⟨-, h⟩ | ⟨-, h⟩
  · exact .inr (hliteral (by decide) h)
  · exact .inr (hliteral (by decide) h)
  · exact .inl fun c hc => Number.isSolid_of_mem (Number.mem_first? h hc)
  · left
    obtain ⟨⟨t, rfl⟩, -⟩ := Word.front?_isFront h
    have hidentifier := (Word.front?_append_iff.1 h).1
    exact fun c hc => Word.isSolid_of_isPart (Word.isPart_of_isIdentifier hidentifier c hc)
  · left
    obtain ⟨c, hc, -, rfl⟩ := symbolFront?_eq_some_iff.1 h
    have hmarks : ['=', ';', ','].all (Text.IsSolid ·) := by decide
    exact List.forall_mem_singleton.2 (of_decide_eq_true (List.all_eq_true.1 hmarks c hc))

/-- A token is read again when the text behind it changes to one that breaks like it. -/
theorem first?_append {w s t : Text} {p : Production} (h : first? (w ++ s) = some (p, w))
    (ht : t.BreaksLike s) : first? (w ++ t) = some (p, w) := by
  rw [first?_eq_some_iff] at h ⊢
  rcases h with ⟨rfl, h⟩ | ⟨rfl, h⟩ | h | ⟨rfl, h⟩ | ⟨rfl, h⟩
  · exact .inl ⟨rfl, Quoted.front?_append (by decide) h t⟩
  · exact .inr (.inl ⟨rfl, Quoted.front?_append (by decide) h t⟩)
  · exact .inr (.inr (.inl (Number.first?_append h ht)))
  · obtain ⟨hword, hs⟩ := Word.front?_append_iff.1 h
    have hend := ht.eq_false (fun _ => Word.isSolid_of_isPart) hs
    exact .inr (.inr (.inr (.inl ⟨rfl, Word.front?_append_iff.2 ⟨hword, hend⟩⟩)))
  · obtain ⟨c, hc, -, rfl⟩ := symbolFront?_eq_some_iff.1 h
    exact .inr (.inr (.inr (.inr ⟨rfl, symbolFront?_eq_some_iff.2 ⟨c, hc, rfl, rfl⟩⟩)))

end Production

end DeclLang
