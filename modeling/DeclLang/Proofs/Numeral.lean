import DeclLang.Proofs.CharacterClass
import DeclLang.Proofs.Span
import DeclLang.Token.Production

/-!
# Numerals and what follows them

`Numeral.read` cuts a text after the longest sign, digits, point and digits. The cut is
characterised by the characters on its two sides, so it depends on the text behind the number only
through the first character there. The four productions for numbers then come down to one choice
by that character.
-/

namespace DeclLang

namespace Numeral

/-- The parts of a number are as long as possible. -/
structure IsCut (n : Numeral) : Prop where
  sign : n.sign = [] ∨ n.sign = ['-']
  whole : ∀ c ∈ n.whole, Text.isDigit c
  fraction : ∀ digits ∈ n.fraction, ∀ c ∈ digits, Text.isDigit c
  rest_digit : ∀ c ∈ n.rest.head?, Text.isDigit c = false
  rest_point : n.fraction = none → n.rest.head? ≠ some '.'
  rest_sign : n.body = [] → n.rest.head? ≠ some '-'

/-- The parts that are read after the sign are as long as possible. -/
theorem isCut_readUnsigned {sign s : Text}
    (hsign : sign = ['-'] ∨ sign = [] ∧ s.head? ≠ some '-') : (readUnsigned sign s).IsCut := by
  have hdigits (t : Text) : ∀ c ∈ t.takeWhile Text.isDigit, Text.isDigit c :=
    fun c hc => List.mem_takeWhile_imp hc
  unfold readUnsigned
  split
  · rename_i tail htail
    refine ⟨hsign.symm.imp And.left id, hdigits s, ?_, fun c => Text.head?_dropWhile, by simp,
      by simp [body]⟩
    rintro digits ⟨⟩
    exact hdigits tail
  · rename_i hpoint
    refine ⟨hsign.symm.imp And.left id, hdigits s, by simp, fun c => Text.head?_dropWhile, ?_, ?_⟩
    · rintro - hhead
      obtain ⟨tail, htail⟩ := List.head?_eq_some_iff.1 hhead
      exact hpoint tail htail
    · intro hbody
      simp only [body, Option.map_none, Option.getD_none, List.append_nil,
        List.append_eq_nil_iff] at hbody
      obtain ⟨rfl, hwhole⟩ := hbody
      have hself : s.dropWhile Text.isDigit = s := by
        simpa [hwhole] using List.takeWhile_append_dropWhile (p := Text.isDigit) (l := s)
      rw [hself]
      simpa using hsign

/-- The parts that are read are as long as possible. -/
theorem isCut_read (s : Text) : (read s).IsCut := by
  unfold read
  split
  · exact isCut_readUnsigned (.inl rfl)
  · rename_i hminus
    refine isCut_readUnsigned (.inr ⟨rfl, fun hhead => ?_⟩)
    obtain ⟨tail, htail⟩ := List.head?_eq_some_iff.1 hhead
    exact hminus tail htail

/-- Parts after the sign that are as long as possible are the ones that are read. -/
theorem readUnsigned_whole_append {n : Numeral} (h : n.IsCut) :
    readUnsigned n.sign (n.whole ++ (n.fraction.map ('.' :: ·)).getD [] ++ n.rest) = n := by
  obtain ⟨sign, whole, fraction, rest⟩ := n
  have hpoint : ∀ c ∈ ((fraction.map ('.' :: ·)).getD [] ++ rest).head?,
      Text.isDigit c = false := by
    cases fraction with
    | none => simpa using h.rest_digit
    | some digits => simp [show Text.isDigit '.' = false by decide]
  unfold readUnsigned
  rw [List.append_assoc, Text.takeWhile_append_eq h.whole hpoint,
    Text.dropWhile_append_eq h.whole hpoint]
  cases fraction with
  | some digits =>
    simp only [Option.map_some, Option.getD_some, List.cons_append]
    rw [Text.takeWhile_append_eq (h.fraction digits rfl) h.rest_digit,
      Text.dropWhile_append_eq (h.fraction digits rfl) h.rest_digit]
  | none =>
    simp only [Option.map_none, Option.getD_none, List.nil_append]
    split
    · exact absurd rfl (h.rest_point rfl)
    · rfl

/-- A number without a sign does not start with one, nor does what follows an empty number. -/
theorem head?_body_append_rest {n : Numeral} (h : n.IsCut) (hsign : n.sign = []) :
    (n.body ++ n.rest).head? ≠ some '-' := by
  by_cases hbody : n.body = []
  · simpa [hbody] using h.rest_sign hbody
  · intro hhead
    rw [List.head?_append, Option.or_of_isSome (by simpa using hbody)] at hhead
    cases hwhole : n.whole with
    | nil =>
      cases hfraction : n.fraction with
      | none => simp [body, hsign, hwhole, hfraction] at hbody
      | some digits => simp [body, hsign, hwhole, hfraction] at hhead
    | cons c digits =>
      have hc : c = '-' := by simpa [body, hsign, hwhole] using hhead
      have hdigit := h.whole c (by simp [hwhole])
      rw [hc] at hdigit
      exact absurd hdigit (by decide)

/-- Parts that are as long as possible are the ones that are read. -/
theorem read_body_append_rest {n : Numeral} (h : n.IsCut) : read (n.body ++ n.rest) = n := by
  have hunsigned := readUnsigned_whole_append h
  rcases h.sign with hsign | hsign
  · have hbody : n.body = n.whole ++ (n.fraction.map ('.' :: ·)).getD [] := by simp [body, hsign]
    rw [hsign, ← hbody] at hunsigned
    have hhead := head?_body_append_rest h hsign
    unfold read
    split
    · rename_i htext
      simp [htext] at hhead
    · exact hunsigned
  · rw [hsign] at hunsigned
    simpa [body, hsign, read] using hunsigned

/-- The parts of a number stay as long as possible before a text that breaks like the rest. -/
theorem IsCut.of_breaksLike {n : Numeral} (h : n.IsCut) {t : Text} (ht : t.BreaksLike n.rest)
    (hbody : n.body ≠ []) : IsCut { n with rest := t } where
  sign := h.sign
  whole := h.whole
  fraction := h.fraction
  rest_digit := ht.eq_false (fun _ => Text.isSolid_of_isDigit) h.rest_digit
  rest_point := by
    intro hfraction hhead
    rcases ht with heq | hbreak
    · exact h.rest_point hfraction (heq ▸ hhead)
    · exact hbreak '.' hhead (by decide)
  rest_sign := fun h => absurd h hbody

/-- The characters of a number before its suffix letter. -/
theorem mem_body {n : Numeral} (h : n.IsCut) {c : Char} (hc : c ∈ n.body) :
    c = '-' ∨ c = '.' ∨ Text.isDigit c := by
  simp only [body, List.mem_append] at hc
  rcases hc with (hsign | hwhole) | hfraction
  · rcases h.sign with heq | heq <;> simp_all
  · exact .inr (.inr (h.whole c hwhole))
  · cases hdigits : n.fraction with
    | none => simp [hdigits] at hfraction
    | some digits =>
      simp only [hdigits, Option.map_some, Option.getD_some, List.mem_cons] at hfraction
      exact .inr (hfraction.imp_right (h.fraction digits hdigits c))

end Numeral

namespace Number

/-- The production of a number, chosen by its parts and the first character behind it. -/
def production (n : Numeral) : Production :=
  if n.rest.head?.any (· ∈ ['f', 'F', 'd', 'D']) then .floatWithSuffix
  else if n.fraction.isSome then .floatPlain
  else if n.rest.head?.any (· ∈ ['l', 'L']) then .integerWithSuffix
  else .integerPlain

/-- The suffix letter that belongs to a number. -/
def suffix (n : Numeral) : Text :=
  if production n = .floatWithSuffix ∨ production n = .integerWithSuffix then n.rest.take 1 else []

/-- The number at the front of a text, with its production. -/
def first? (s : Text) : Option (Production × Text) :=
  (Numeral.read s).decimal?.map fun body =>
    (production (Numeral.read s), body ++ suffix (Numeral.read s))

/-- The four productions for numbers, tried in turn, come down to one choice. -/
theorem first?_eq (s : Text) :
    [Production.floatWithSuffix, .floatPlain, .integerWithSuffix, .integerPlain].findSome?
      (fun production => (production.front? s).map (production, ·)) = first? s := by
  unfold first? suffix production
  simp only [List.findSome?_cons, List.findSome?_nil, Production.front?, suffixed?, pointed?,
    suffixedInteger?, integer?]
  generalize Numeral.read s = n
  generalize ['f', 'F', 'd', 'D'] = floats
  generalize ['l', 'L'] = longs
  obtain ⟨sign, whole, fraction, rest⟩ := n
  cases hdecimal : Numeral.decimal? ⟨sign, whole, fraction, rest⟩ with
  | none =>
    have hwhole : whole = [] := by
      cases fraction <;> simp_all [Numeral.decimal?]
    cases rest <;> simp [hwhole]
  | some body =>
    cases fraction with
    | some digits =>
      cases rest with
      | nil => simp
      | cons c rest => by_cases hfloat : c ∈ floats <;> simp [hfloat]
    | none =>
      obtain ⟨hwhole, hbody⟩ : whole ≠ [] ∧ sign ++ whole = body := by
        simpa [Numeral.decimal?, Numeral.body] using hdecimal
      cases rest with
      | nil => simp [hwhole, hbody]
      | cons c rest =>
        by_cases hfloat : c ∈ floats <;> by_cases hlong : c ∈ longs <;>
          simp [hfloat, hlong, hwhole, hbody]

/-- A number at the front of a text is all its parts and the suffix letter, if it has one. -/
theorem first?_eq_some {s w : Text} {p : Production} (h : first? s = some (p, w)) :
    (Numeral.read s).decimal? = some (Numeral.read s).body ∧ production (Numeral.read s) = p ∧
      (Numeral.read s).body ≠ [] ∧ w = (Numeral.read s).body ++ suffix (Numeral.read s) := by
  obtain ⟨body, hbody, heq⟩ := Option.map_eq_some_iff.1 h
  obtain ⟨rfl, hne⟩ := Numeral.decimal?_eq_some hbody
  simp only [Prod.mk.injEq] at heq
  exact ⟨hbody, heq.1, hne, heq.2.symm⟩

/-- The suffix letter of a number is one of its production's. -/
theorem mem_suffix {n : Numeral} {c : Char} (hc : c ∈ suffix n) :
    c ∈ ['f', 'F', 'd', 'D'] ∨ c ∈ ['l', 'L'] := by
  unfold suffix production at hc
  generalize ['f', 'F', 'd', 'D'] = floats at *
  generalize ['l', 'L'] = longs at *
  cases hrest : n.rest with
  | nil => simp [hrest] at hc
  | cons a rest =>
    by_cases hfloat : a ∈ floats
    · exact .inl (by simp_all)
    · by_cases hlong : a ∈ longs
      · exact .inr (by cases hfraction : n.fraction <;> simp_all)
      · cases hfraction : n.fraction <;> simp [hrest, hfloat, hlong, hfraction] at hc

/-- The characters of a number. -/
theorem mem_first? {s w : Text} {p : Production} (h : first? s = some (p, w)) {c : Char}
    (hc : c ∈ w) : c ∈ ['-', '.', 'f', 'F', 'd', 'D', 'l', 'L'] ∨ Text.isDigit c := by
  obtain ⟨-, -, -, rfl⟩ := first?_eq_some h
  rcases List.mem_append.1 hc with hbody | hsuffix
  · rcases Numeral.mem_body (Numeral.isCut_read s) hbody with rfl | rfl | hdigit
    · exact .inl (by decide)
    · exact .inl (by decide)
    · exact .inr hdigit
  · rcases mem_suffix hsuffix with hfloat | hlong
    · exact .inl (List.mem_cons_of_mem _ (List.mem_cons_of_mem _ (List.mem_append_left _ hfloat)))
    · exact .inl (List.mem_append_right ['-', '.', 'f', 'F', 'd', 'D'] hlong)

/-- The characters of numbers are solid. -/
theorem isSolid_of_mem {c : Char}
    (h : c ∈ ['-', '.', 'f', 'F', 'd', 'D', 'l', 'L'] ∨ Text.isDigit c) : Text.IsSolid c := by
  have hmarks : ['-', '.', 'f', 'F', 'd', 'D', 'l', 'L'].all (Text.IsSolid ·) := by decide
  rcases h with hmark | hdigit
  · exact of_decide_eq_true (List.all_eq_true.1 hmarks c hmark)
  · exact Text.isSolid_of_isDigit hdigit

/-- The text behind a number without suffix letter starts with none that would count. -/
theorem any_head?_of_suffix_eq_nil {n : Numeral} (h : suffix n = []) :
    n.rest.head?.any (· ∈ ['f', 'F', 'd', 'D']) = false ∧
      (n.fraction.isSome ∨ n.rest.head?.any (· ∈ ['l', 'L']) = false) := by
  unfold suffix production at h
  generalize ['f', 'F', 'd', 'D'] = floats at *
  generalize ['l', 'L'] = longs at *
  cases hrest : n.rest with
  | nil => simp
  | cons c rest =>
    by_cases hfloat : c ∈ floats
    · simp [hrest, hfloat] at h
    · by_cases hlong : c ∈ longs
      · cases hfraction : n.fraction with
        | none => simp [hrest, hfloat, hlong, hfraction] at h
        | some digits => simp [hfloat]
      · simp [hfloat, hlong]

/-- A number without suffix letter has one of the two plain productions. -/
theorem production_of_suffix_eq_nil {n : Numeral} (h : suffix n = []) :
    production n = if n.fraction.isSome then .floatPlain else .integerPlain := by
  obtain ⟨hfloat, hlong⟩ := any_head?_of_suffix_eq_nil h
  unfold production
  generalize ['f', 'F', 'd', 'D'] = floats at *
  generalize ['l', 'L'] = longs at *
  rcases hlong with hfraction | hlong
  · simp [hfloat, hfraction]
  · simp [hfloat, hlong]

/-- Before a text that starts with no solid character a number has one of the two plain
productions. -/
theorem production_of_not_isSolid {n : Numeral} (h : ∀ c ∈ n.rest.head?, ¬ Text.IsSolid c) :
    production n = if n.fraction.isSome then .floatPlain else .integerPlain := by
  have hnone (letters : List Char) (hl : letters.all (Text.IsSolid ·)) :
      n.rest.head?.any (· ∈ letters) = false := by
    rw [Bool.eq_false_iff, ne_eq, Option.any_eq_true]
    rintro ⟨c, hc, hmem⟩
    exact h c hc (of_decide_eq_true (List.all_eq_true.1 hl c (by simpa using hmem)))
  rw [production, hnone ['f', 'F', 'd', 'D'] (by decide), hnone ['l', 'L'] (by decide)]
  rfl

/-- A suffix letter is at most one character. -/
theorem suffix_eq_nil_or {n : Numeral} : suffix n = [] ∨ ∃ c, suffix n = [c] := by
  unfold suffix
  split
  · cases n.rest <;> simp
  · exact .inl rfl

/-- The production and the suffix letter of a number depend on no more than the first character
behind it. -/
theorem suffix_of_breaksLike {n : Numeral} {s t : Text} (hrest : n.rest = suffix n ++ s)
    (ht : t.BreaksLike s) :
    Text.BreaksLike (suffix n ++ t) n.rest ∧
      production { n with rest := suffix n ++ t } = production n ∧
      suffix { n with rest := suffix n ++ t } = suffix n := by
  rcases suffix_eq_nil_or (n := n) with hnil | ⟨c, hc⟩
  · have hplain := production_of_suffix_eq_nil hnil
    have hbreaks : Text.BreaksLike t n.rest := by rwa [hrest, hnil]
    have hproduction : production { n with rest := t } = production n := by
      rcases hbreaks with heq | hbreak
      · simp only [production, heq]
      · rw [production_of_not_isSolid (n := { n with rest := t }) hbreak, hplain]
    rw [hnil, List.nil_append]
    refine ⟨hbreaks, hproduction, ?_⟩
    rw [suffix, hproduction, hplain]
    split <;> simp_all
  · have hhead : (suffix n ++ t).head? = n.rest.head? := by simp [hrest, hc]
    have hproduction : production { n with rest := suffix n ++ t } = production n := by
      simp only [production, hhead]
    refine ⟨.inl hhead, hproduction, ?_⟩
    have htake : (suffix n ++ t).take 1 = n.rest.take 1 := by simp [hrest, hc]
    rw [suffix, hproduction, htake, ← suffix]

/-- A number is read again when the text behind it changes to one that breaks like it. -/
theorem first?_append {w s t : Text} {p : Production} (h : first? (w ++ s) = some (p, w))
    (ht : t.BreaksLike s) : first? (w ++ t) = some (p, w) := by
  obtain ⟨hdecimal, hp, hbody, hw⟩ := first?_eq_some h
  have hloss := Numeral.body_read_append_rest (w ++ s)
  have hcut := Numeral.isCut_read (w ++ s)
  generalize Numeral.read (w ++ s) = n at *
  have hrest : n.rest = suffix n ++ s := by
    have hparts : n.body ++ n.rest = n.body ++ (suffix n ++ s) := by
      rw [hloss, ← List.append_assoc, ← hw]
    exact List.append_cancel_left hparts
  obtain ⟨hbreaks, hproduction, hsuffix⟩ := suffix_of_breaksLike hrest ht
  have hread : Numeral.read (w ++ t) = { n with rest := suffix n ++ t } := by
    rw [hw, List.append_assoc]
    exact Numeral.read_body_append_rest (hcut.of_breaksLike hbreaks hbody)
  have hdecimal' : Numeral.decimal? { n with rest := suffix n ++ t } = some n.body := hdecimal
  rw [first?, hread, hdecimal', Option.map_some, hproduction, hsuffix, hp, ← hw]

end Number

end DeclLang
