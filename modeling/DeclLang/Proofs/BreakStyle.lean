import DeclLang.Proofs.CommentFree
import DeclLang.Proofs.LineBreak

/-!
# Carriage returns in front of newlines

A carriage return in front of a newline is a blank by itself or belongs to a comment, for no token
holds a newline or ends with a carriage return. Without these carriage returns a text is read in the
same way: some blanks are missing and some comments are shorter, but the lexemes are the same, and
where the reading gets stuck it does so for the same cause. The place is the same too, since a line
and a column count newlines and the characters behind the last of them.
-/

namespace DeclLang

namespace Text

/-- A text with a newline in place of every carriage return with a newline behind it. -/
def normalizeBreaks : Text → Text
  | [] => []
  | '\r' :: '\n' :: rest => '\n' :: normalizeBreaks rest
  | c :: rest => c :: normalizeBreaks rest

/-- A character stays unless it is a carriage return in front of a newline. -/
theorem normalizeBreaks_cons {c : Char} {s : Text} (h : c = '\r' → s.head? ≠ some '\n') :
    normalizeBreaks (c :: s) = c :: normalizeBreaks s := by
  apply normalizeBreaks.eq_3
  intro rest hc hs
  exact h hc (by rw [hs]; rfl)

/-- The parts of a text are normalized one by one unless they meet between a carriage return and a
newline. -/
theorem normalizeBreaks_append {s t : Text}
    (h : s.getLast? = some '\r' → t.head? ≠ some '\n') :
    normalizeBreaks (s ++ t) = normalizeBreaks s ++ normalizeBreaks t := by
  have hlater {c : Char} {rest : Text}
      (h : (c :: rest).getLast? = some '\r' → t.head? ≠ some '\n')
      (hlast : rest.getLast? = some '\r') : t.head? ≠ some '\n' :=
    h (by simp [List.getLast?_cons, hlast])
  fun_induction normalizeBreaks s with
  | case1 => rfl
  | case2 rest ih => exact congrArg ('\n' :: ·) (ih (hlater (hlater h)))
  | case3 c rest hpair ih =>
    -- behind a carriage return at the end of the first part comes the second part
    have hmeet : c = '\r' → (rest ++ t).head? ≠ some '\n' := by
      intro hc
      cases rest with
      | nil => exact h (by rw [hc]; rfl)
      | cons d rest =>
        intro hd
        exact hpair rest hc (by simpa using hd)
    rw [List.cons_append, normalizeBreaks_cons hmeet, ih (hlater h)]
    rfl

/-- A text without newlines is left alone. -/
theorem normalizeBreaks_of_newline_notMem {s : Text} (h : '\n' ∉ s) : normalizeBreaks s = s := by
  fun_induction normalizeBreaks s with
  | case1 => rfl
  | case2 rest => simp at h
  | case3 c rest _ ih => rw [ih fun hmem => h (List.mem_cons_of_mem c hmem)]

/-- Of a line with a newline behind it no more than the carriage return at its end is dropped. -/
theorem normalizeBreaks_line {line : Text} (h : '\n' ∉ line) (s : Text) :
    normalizeBreaks (line ++ '\n' :: s) = dropReturn line ++ '\n' :: normalizeBreaks s := by
  unfold dropReturn
  split
  · rename_i hlast
    obtain ⟨body, rfl⟩ := List.getLast?_eq_some_iff.1 hlast
    have hbody : '\n' ∉ body := fun hmem => h (List.mem_append_left _ hmem)
    rw [List.append_assoc, normalizeBreaks_append (by simp),
      normalizeBreaks_of_newline_notMem hbody, List.dropLast_concat]
    rfl
  · rename_i hlast
    rw [normalizeBreaks_append (absurd · hlast), normalizeBreaks_of_newline_notMem h]
    rfl

/-- A line is still one when it loses the carriage return at its end. -/
theorem newline_notMem_dropReturn {line : Text} (h : '\n' ∉ line) : '\n' ∉ dropReturn line := by
  unfold dropReturn
  split
  · exact fun hmem => h (List.mem_of_mem_dropLast hmem)
  · exact h

/-- A normalized text starts as the text does, or with a newline. -/
theorem normalizeBreaks_breaksLineLike (s : Text) : (normalizeBreaks s).BreaksLineLike s := by
  unfold normalizeBreaks
  split
  · exact .inl rfl
  · exact .inr (by simp)
  · exact .inl rfl

/-- A text starts as the normalized text does, or with a carriage return. -/
theorem breaksLike_normalizeBreaks (s : Text) : s.BreaksLike (normalizeBreaks s) := by
  unfold normalizeBreaks
  split
  · exact .inl rfl
  · right
    intro c hc
    obtain rfl := Option.some.inj hc
    decide
  · exact .inl rfl

/-- What a normalized text starts with, the text itself starts with, up to the first newline. -/
theorem exists_of_normalizeBreaks {s w t : Text} (hw : '\n' ∉ w)
    (h : normalizeBreaks s = w ++ t) : ∃ rest, s = w ++ rest ∧ normalizeBreaks rest = t := by
  induction w generalizing s with
  | nil => exact ⟨s, rfl, h⟩
  | cons c w ih =>
    obtain ⟨hc, hrest⟩ := not_or.1 (mt List.mem_cons.2 hw)
    unfold normalizeBreaks at h
    split at h
    · contradiction
    · exact absurd (List.cons.inj h).1 hc
    · obtain ⟨rfl, htail⟩ := List.cons.inj h
      obtain ⟨rest, rfl, ht⟩ := ih hrest htail
      exact ⟨rest, rfl, ht⟩

/-- Two characters side by side in a normalized text were so in the text, unless the second one is a
newline. -/
theorem pair_infix_of_normalizeBreaks {x y : Char} (hy : y ≠ '\n') {s : Text}
    (h : [x, y] <:+: normalizeBreaks s) : [x, y] <:+: s := by
  have hfirst {c : Char} {rest : Text} (hpair : [x, y] <+: c :: normalizeBreaks rest) :
      [x, y] <+: c :: rest := by
    obtain ⟨rfl, tail, htail⟩ := List.cons_prefix_cons.1 hpair
    obtain ⟨tail, rfl, -⟩ := exists_of_normalizeBreaks (by simpa using hy.symm) htail.symm
    exact List.prefix_append [x, y] tail
  fun_induction normalizeBreaks s with
  | case1 => exact h
  | case2 rest ih =>
    apply List.infix_cons
    exact List.infix_cons_iff.2 ((List.infix_cons_iff.1 h).imp hfirst ih)
  | case3 c rest _ ih => exact List.infix_cons_iff.2 ((List.infix_cons_iff.1 h).imp hfirst ih)

end Text

namespace Location

/-- Carriage returns in front of newlines do not count for the place behind a text. -/
theorem after_normalizeBreaks (s : Text) : after (Text.normalizeBreaks s) = after s := by
  induction hlength : s.length using Nat.strong_induction_on generalizing s with
  | _ n ih =>
    by_cases hbreak : '\n' ∈ s
    · obtain ⟨line, rest, rfl, hline⟩ := List.eq_append_cons_of_mem hbreak
      have hshorter : rest.length < n := by
        rw [← hlength, List.length_append, List.length_cons]
        omega
      have hdrop := Text.newline_notMem_dropReturn hline
      rw [Text.normalizeBreaks_line hline, after_append_newline, after_append_newline,
        ih _ hshorter rest rfl, List.count_eq_zero_of_not_mem hline,
        List.count_eq_zero_of_not_mem hdrop]
    · rw [Text.normalizeBreaks_of_newline_notMem hbreak]

end Location

namespace Production

/-- What a production matches ends within its line, and not with a carriage return. -/
theorem ends_within_line {s w : Text} {p : Production} (h : first? s = some (p, w)) :
    '\n' ∉ w ∧ w.getLast? ≠ some '\r' := by
  rcases isSolid_or_quoted h with hsolid | ⟨quote, hquote, body, rfl, hbody⟩
  · have hnewline : ¬ Text.IsSolid '\n' := by decide
    have hreturn : ¬ Text.IsSolid '\r' := by decide
    exact ⟨mt (hsolid '\n') hnewline, fun h => hreturn (hsolid '\r' (List.mem_of_getLast? h))⟩
  · have hnewline : '\n' ≠ quote := (ne_of_mem_of_not_mem hquote (by decide)).symm
    have hreturn : quote ≠ '\r' := ne_of_mem_of_not_mem hquote (by decide)
    have hlast : (quote :: (body ++ [quote])).getLast? = some quote := by
      rw [← List.cons_append, List.getLast?_concat]
    exact ⟨by simp [hnewline, hbody], by simpa [hlast] using hreturn⟩

/-- What is matched at the front of a text stays there when the text is normalized. -/
theorem normalizeBreaks_append {w t : Text} {p : Production}
    (h : first? (w ++ t) = some (p, w)) :
    Text.normalizeBreaks (w ++ t) = w ++ Text.normalizeBreaks t := by
  obtain ⟨hnewline, hlast⟩ := ends_within_line h
  rw [Text.normalizeBreaks_append (absurd · hlast), Text.normalizeBreaks_of_newline_notMem hnewline]

/-- Normalizing a text does not change what is matched at its front. -/
theorem first?_normalizeBreaks (s : Text) : first? (Text.normalizeBreaks s) = first? s := by
  apply Option.ext
  rintro ⟨p, w⟩
  constructor
  · intro h
    obtain ⟨⟨t, ht⟩, -⟩ := first?_isFront h
    obtain ⟨rest, rfl, rfl⟩ := Text.exists_of_normalizeBreaks (ends_within_line h).1 ht.symm
    rw [← ht] at h
    exact first?_append h (Text.breaksLike_normalizeBreaks rest)
  · intro h
    obtain ⟨⟨t, rfl⟩, -⟩ := first?_isFront h
    rw [normalizeBreaks_append h]
    exact first?_append h (Text.normalizeBreaks_breaksLineLike t).breaksLike

end Production

/-- A line that breaks in front of a text is normalized to one that breaks there too. -/
theorem Text.exists_normalizeBreaks_line {line t : Text} (hline : '\n' ∉ line)
    (ht : ∀ c ∈ t.head?, c = '\n') :
    ∃ line', '\n' ∉ line' ∧ normalizeBreaks (line ++ t) = line' ++ normalizeBreaks t := by
  cases t with
  | nil =>
    refine ⟨line, hline, ?_⟩
    rw [List.append_nil, normalizeBreaks_of_newline_notMem hline]
    exact (List.append_nil line).symm
  | cons c t =>
    obtain rfl := ht c rfl
    exact ⟨dropReturn line, newline_notMem_dropReturn hline, normalizeBreaks_line hline t⟩

/-- The marks of a block comment stay where they are. -/
theorem Text.normalizeBreaks_block (body t : Text) :
    normalizeBreaks ('/' :: '*' :: (body ++ ['*', '/']) ++ t) =
      '/' :: '*' :: (normalizeBreaks body ++ ['*', '/']) ++ normalizeBreaks t := by
  have hopen (s : Text) : normalizeBreaks ('/' :: '*' :: s) = '/' :: '*' :: normalizeBreaks s := by
    rw [normalizeBreaks_cons (by simp), normalizeBreaks_cons (by simp)]
  have hclose : normalizeBreaks ('*' :: '/' :: t) = '*' :: '/' :: normalizeBreaks t := by
    rw [normalizeBreaks_cons (by simp), normalizeBreaks_cons (by simp)]
  have hbody : normalizeBreaks (body ++ '*' :: '/' :: t) =
      normalizeBreaks body ++ normalizeBreaks ('*' :: '/' :: t) := normalizeBreaks_append (by simp)
  simp [hopen, hbody, hclose]

/-- In front of a normalized text a stretch is left out or read again: as a token with the same
lexeme, or as trivia that may be shorter. -/
theorem Stretch.exists_normalizeBreaks {x : Stretch} {t : Text} (hx : x.IsRead t) :
    (Text.normalizeBreaks (x.text ++ t) = Text.normalizeBreaks t ∧ x.spellings = []) ∨
      ∃ y : Stretch, Text.normalizeBreaks (x.text ++ t) = y.text ++ Text.normalizeBreaks t ∧
        y.spellings = x.spellings ∧ y.IsRead (Text.normalizeBreaks t) := by
  have hbreaks := Text.normalizeBreaks_breaksLineLike t
  cases x with
  | blank c =>
    by_cases hpair : c = '\r' ∧ t.head? = some '\n'
    · obtain ⟨rfl, hnewline⟩ := hpair
      obtain ⟨t, rfl⟩ := List.head?_eq_some_iff.1 hnewline
      -- the newline that is left belongs to the text behind
      exact .inl ⟨rfl, rfl⟩
    · exact .inr ⟨.blank c, Text.normalizeBreaks_cons (not_and.1 hpair), rfl, hx⟩
  | comment w =>
    right
    rcases Comment.front?_append_eq_some hx with ⟨body, rfl, hbody, ht⟩ | ⟨body, rfl, hbody⟩
    · obtain ⟨body', hbody', htext⟩ := Text.exists_normalizeBreaks_line hbody ht
      refine ⟨.comment ('/' :: '/' :: body'), ?_, rfl, ?_⟩
      · exact congrArg (fun rest => '/' :: '/' :: rest) htext
      · exact Comment.front?_line hbody' (hbreaks.newline ht)
    · have hclose : ¬ ['*', '/'] <:+: Text.normalizeBreaks body := by
        intro h
        have hinside := Text.pair_infix_of_normalizeBreaks (by decide) h
        exact hbody (hinside.trans List.infix_append_left)
      exact ⟨.comment ('/' :: '*' :: (Text.normalizeBreaks body ++ ['*', '/'])),
        Text.normalizeBreaks_block body t, rfl, Comment.front?_block hclose _⟩
  | token kind w =>
    right
    have hread := Stretch.IsRead.of_breaksLineLike hx hbreaks
    obtain ⟨production, hfirst, -⟩ := hx
    exact ⟨.token kind w, Production.normalizeBreaks_append hfirst, rfl, hread⟩

/-- Where no comment starts there is none when the text is normalized. -/
theorem Comment.front?_normalizeBreaks {s : Text} (h : front? s = none) :
    front? (Text.normalizeBreaks s) = none := by
  obtain ⟨hline, hblock⟩ := front?_eq_none_iff.1 h
  apply front?_eq_none_iff.2
  constructor
  · intro ⟨tail, htail⟩
    obtain ⟨rest, rfl, -⟩ := Text.exists_of_normalizeBreaks (by decide) htail.symm
    exact hline (List.prefix_append _ rest)
  · intro b hb
    obtain ⟨rest, rfl, rfl⟩ := Text.exists_of_normalizeBreaks (w := ['/', '*']) (by decide) hb
    exact mt (Text.pair_infix_of_normalizeBreaks (by decide)) (hblock rest rfl)

namespace LexicalError.Cause

/-- The cause where no production matches depends on the first character and, behind a slash, on
whether a star comes next. -/
theorem unmatched_cons (c : Char) (rest : Text) :
    unmatched (c :: rest) =
      if c = '/' ∧ rest.head? = some '*' then .unterminatedComment
      else if c = '"' then .unterminatedString
      else if c = '\'' then .unterminatedChar
      else .invalidCharacter c := by
  unfold unmatched
  split <;> simp_all [List.head?_eq_some_iff]

/-- Where no production matches the cause stays when the text is normalized. -/
theorem unmatched_normalizeBreaks {c : Char} {rest : Text} (h : c ≠ '\r') :
    unmatched (Text.normalizeBreaks (c :: rest)) = unmatched (c :: rest) := by
  have hstar : (Text.normalizeBreaks rest).head? = some '*' ↔ rest.head? = some '*' := by
    unfold Text.normalizeBreaks
    split <;> simp
  rw [Text.normalizeBreaks_cons (absurd · h), unmatched_cons, unmatched_cons]
  simp only [hstar]

end LexicalError.Cause

namespace Reading

/-- A reading in front of a text becomes one with the same lexemes in front of the normalized
text. -/
theorem exists_normalizeBreaks {r : Reading} {rest : Text} (hr : r.IsReadBefore rest) :
    ∃ r' : Reading, Text.normalizeBreaks (r.text ++ rest) = r'.text ++ Text.normalizeBreaks rest ∧
      r'.spellings = r.spellings ∧ r'.IsReadBefore (Text.normalizeBreaks rest) := by
  induction r with
  | nil => exact ⟨[], rfl, rfl, trivial⟩
  | cons x r ih =>
    obtain ⟨hx, hlater⟩ := hr
    obtain ⟨r', htext, hspellings, hr'⟩ := ih hlater
    rw [text_cons, List.append_assoc]
    rcases Stretch.exists_normalizeBreaks hx with ⟨hxtext, hnone⟩ | ⟨y, hytext, hyspellings, hy⟩
    · exact ⟨r', hxtext.trans htext, by rw [spellings_cons, hnone, hspellings]; rfl, hr'⟩
    · rw [htext] at hytext hy
      refine ⟨y :: r', ?_, ?_, hy, hr'⟩
      · rw [hytext, text_cons, List.append_assoc]
      · rw [spellings_cons, spellings_cons, hyspellings, hspellings]

/-- A reading gets stuck at a normalized text for the same cause. -/
theorem IsStuck.normalizeBreaks {s : Text} {cause : LexicalError.Cause} (h : IsStuck s cause) :
    IsStuck (Text.normalizeBreaks s) cause := by
  obtain ⟨c, rest, rfl⟩ := List.exists_cons_of_ne_nil h.ne_nil
  have hreturn : c ≠ '\r' := by
    rintro rfl
    have := h.blank '\r' rfl
    contradiction
  have hcons := Text.normalizeBreaks_cons (s := rest) (absurd · hreturn)
  constructor
  · rw [hcons]
    exact List.cons_ne_nil _ _
  · rw [hcons]
    exact h.blank
  · exact Comment.front?_normalizeBreaks h.comment
  · intro offset
    rw [Token.read_eq_error_iff, Production.first?_normalizeBreaks,
      LexicalError.Cause.unmatched_normalizeBreaks hreturn]
    exact Token.read_eq_error_iff.1 (h.token offset)

end Reading

/-- The style of line breaks does not change the lexical phase. With a newline in place of every
carriage return and newline side by side, a text keeps the kinds and the lexemes of its tokens, or
the cause and the location of its error. -/
theorem lex_normalizeBreaks (s : Text) :
    (lex (Text.normalizeBreaks s)).map (·.map Token.spelling) =
      (lex s).map (·.map Token.spelling) := by
  obtain ⟨r, rest, rfl, hr, hend⟩ := Reading.exists_reading s
  obtain ⟨r', htext, hspellings, hr'⟩ := Reading.exists_normalizeBreaks hr
  rw [htext]
  rcases hend with rfl | ⟨cause, hstuck⟩
  · have hempty : Text.normalizeBreaks [] = [] := rfl
    rw [hempty] at hr' ⊢
    rw [List.append_nil, List.append_nil, Reading.lex_text hr, Reading.lex_text hr']
    simp only [Except.map, Reading.map_spelling_tokensFrom, hspellings]
  · have hplace : r'.text = Text.normalizeBreaks r.text := by
      have hmeet : rest.head? ≠ some '\n' := by
        intro hhead
        have := hstuck.blank _ hhead
        contradiction
      rw [Text.normalizeBreaks_append fun _ => hmeet] at htext
      exact (List.append_cancel_right htext).symm
    rw [Reading.lex_of_isStuck hr hstuck, Reading.lex_of_isStuck hr' hstuck.normalizeBreaks, hplace,
      Location.after_normalizeBreaks]

end DeclLang
