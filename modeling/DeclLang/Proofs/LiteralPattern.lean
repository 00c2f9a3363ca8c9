import DeclLang.Proofs.LiteralToken
import Mathlib.Computability.Language

/-!
# Literal patterns

The shapes of literals are regular patterns, written here with the operations on languages: choice,
succession and repetition. A pattern leaves open how a text is divided among its parts, while the
tests for the shapes cut the text once, each part as long as possible. The two agree because what
follows a part never starts with a character that the part could have taken.
-/

namespace DeclLang

open scoped Computability

namespace Pattern

/-- One character with a property. -/
def one (p : Char → Prop) : Language Char := {w | ∃ c, p c ∧ w = [c]}

/-- One symbol of a literal between quotes: a backslash and any character but a newline, or any
character that is neither the quote nor a backslash. -/
def symbol (quote : Char) : Language Char :=
  {['\\']} * one (· ≠ '\n') + one fun c => c ≠ quote ∧ c ≠ '\\'

/-- Something between two quotes. -/
def quoted (quote : Char) (content : Language Char) : Language Char :=
  {[quote]} * content * {[quote]}

/-- The sign of a number, if it has one. -/
def sign : Language Char := 1 + {['-']}

/-- One digit. -/
def digit : Language Char := one fun c => Text.isDigit c

/-- At least one digit. -/
def digits : Language Char := digit * digit∗

/-- Digits with a point behind or among them, or digits behind a point. -/
def pointed : Language Char := digits * {['.']} * digit∗ + {['.']} * digits

/-- One of the given letters. -/
def letter (letters : List Char) : Language Char := one (· ∈ letters)

section

variable {p : Char → Prop} {quote : Char} {l : Language Char} {w u : Text}

/-- Any number of characters with a property. -/
theorem mem_kstar_one : w ∈ (one p)∗ ↔ ∀ c ∈ w, p c := by
  rw [Language.mem_kstar]
  constructor
  · rintro ⟨parts, rfl, hparts⟩ c hc
    obtain ⟨part, hpart, hmem⟩ := List.mem_flatten.1 hc
    obtain ⟨d, hd, rfl⟩ := hparts part hpart
    rwa [List.mem_singleton.1 hmem]
  · intro hw
    refine ⟨w.map ([·]), (List.flatMap_singleton' w).symm, fun part hpart => ?_⟩
    obtain ⟨c, hc, rfl⟩ := List.mem_map.1 hpart
    exact ⟨c, hw c hc, rfl⟩

/-- One more part is put in front of a repetition. -/
theorem append_mem_kstar (hw : w ∈ l) (hu : u ∈ l∗) : w ++ u ∈ l∗ := by
  obtain ⟨parts, rfl, hparts⟩ := Language.mem_kstar.1 hu
  exact Language.join_mem_kstar (L := w :: parts) (List.forall_mem_cons.2 ⟨hw, hparts⟩)

/-- The texts between two quotes. -/
theorem mem_quoted : w ∈ quoted quote l ↔ ∃ u ∈ l, w = quote :: (u ++ [quote]) := by
  rw [quoted, mul_assoc]
  constructor
  · rintro ⟨-, rfl, -, ⟨u, hu, -, rfl, rfl⟩, rfl⟩
    exact ⟨u, hu, rfl⟩
  · rintro ⟨u, hu, rfl⟩
    exact ⟨[quote], rfl, u ++ [quote], ⟨u, hu, [quote], rfl, rfl⟩, rfl⟩

/-- The two forms of a symbol. -/
theorem mem_symbol : w ∈ symbol quote ↔
    (∃ c, c ≠ '\n' ∧ w = ['\\', c]) ∨ ∃ c, (c ≠ quote ∧ c ≠ '\\') ∧ w = [c] := by
  refine or_congr ⟨?_, ?_⟩ Iff.rfl
  · rintro ⟨-, rfl, -, ⟨c, hc, rfl⟩, rfl⟩
    exact ⟨c, hc, rfl⟩
  · rintro ⟨c, hc, rfl⟩
    exact ⟨['\\'], rfl, [c], ⟨c, hc, rfl⟩, rfl⟩

/-- A sign is a minus or nothing. -/
theorem mem_sign : w ∈ sign ↔ w = [] ∨ w = ['-'] := Iff.rfl

/-- Digits in any number, and not none. -/
theorem mem_digits : w ∈ digits ↔ w ≠ [] ∧ ∀ c ∈ w, Text.isDigit c := by
  rw [digits, Language.mem_mul]
  constructor
  · rintro ⟨-, ⟨c, hc, rfl⟩, rest, hrest, rfl⟩
    exact ⟨List.cons_ne_nil c rest, List.forall_mem_cons.2 ⟨hc, mem_kstar_one.1 hrest⟩⟩
  · rintro ⟨hne, hw⟩
    obtain ⟨c, rest, rfl⟩ := List.exists_cons_of_ne_nil hne
    obtain ⟨hc, hrest⟩ := List.forall_mem_cons.1 hw
    exact ⟨[c], ⟨c, hc, rfl⟩, rest, mem_kstar_one.2 hrest, rfl⟩

/-- Digits around a point, on one side of it at least. -/
theorem mem_pointed : w ∈ pointed ↔ ∃ whole fraction,
    (∀ c ∈ whole, Text.isDigit c) ∧ (∀ c ∈ fraction, Text.isDigit c) ∧
      (whole ≠ [] ∨ fraction ≠ []) ∧ w = whole ++ '.' :: fraction := by
  constructor
  · rintro (⟨-, ⟨whole, hwhole, -, rfl, rfl⟩, fraction, hfraction, rfl⟩ |
      ⟨-, rfl, fraction, hfraction, rfl⟩)
    · obtain ⟨hne, hwhole⟩ := mem_digits.1 hwhole
      exact ⟨whole, fraction, hwhole, mem_kstar_one.1 hfraction, .inl hne, by simp⟩
    · obtain ⟨hne, hfraction⟩ := mem_digits.1 hfraction
      exact ⟨[], fraction, by simp, hfraction, .inr hne, rfl⟩
  · rintro ⟨whole, fraction, hwhole, hfraction, hne, rfl⟩
    by_cases hnil : whole = []
    · subst hnil
      have hne : fraction ≠ [] := hne.resolve_left (absurd rfl)
      exact .inr ⟨['.'], rfl, fraction, mem_digits.2 ⟨hne, hfraction⟩, rfl⟩
    · refine .inl ⟨whole ++ ['.'], ⟨whole, mem_digits.2 ⟨hnil, hwhole⟩, ['.'], rfl, rfl⟩, fraction,
        mem_kstar_one.2 hfraction, by simp⟩

/-- What is read of a literal after its quote are symbols and the closing quote. -/
theorem exists_symbols_of_tail? (h : Quoted.tail? quote true u = some w) :
    ∃ v ∈ (symbol quote)∗, w = v ++ [quote] := by
  fun_induction Quoted.tail? quote true u generalizing w with
  | case1 | case2 | case3 | case6 => simp at h
  | case4 c rest hc ih =>
    obtain ⟨w, hw, rfl⟩ := Option.map_eq_some_iff.1 h
    obtain ⟨v, hv, rfl⟩ := ih hw
    exact ⟨['\\', c] ++ v, append_mem_kstar (mem_symbol.2 (.inl ⟨c, hc, rfl⟩)) hv, rfl⟩
  | case5 rest =>
    cases h
    exact ⟨[], Language.nil_mem_kstar _, rfl⟩
  | case7 c rest hlone hpair hne _ ih =>
    obtain ⟨w, hw, rfl⟩ := Option.map_eq_some_iff.1 h
    obtain ⟨v, hv, rfl⟩ := ih hw
    have hc := Quoted.ne_backslash hlone hpair
    exact ⟨[c] ++ v, append_mem_kstar (mem_symbol.2 (.inr ⟨c, ⟨hne, hc⟩, rfl⟩)) hv, rfl⟩

/-- Symbols are read through the quote that closes them. -/
theorem tail?_of_symbols (hquote : quote ≠ '\\') (h : u ∈ (symbol quote)∗) :
    Quoted.tail? quote true (u ++ [quote]) = some (u ++ [quote]) := by
  obtain ⟨symbols, rfl, hsymbols⟩ := Language.mem_kstar.1 h
  clear h
  induction symbols with
  | nil => simp [Quoted.tail?_cons hquote]
  | cons s symbols ih =>
    obtain ⟨hs, hrest⟩ := List.forall_mem_cons.1 hsymbols
    rcases mem_symbol.1 hs with ⟨c, hc, rfl⟩ | ⟨c, ⟨hne, hc⟩, rfl⟩
    · simp [Quoted.tail?, hc, ih hrest]
    · simp [Quoted.tail?_cons hc, hne, ih hrest]

/-- The texts of the shape of strings are any number of symbols between two quotes. -/
theorem isString_iff_mem : Literal.isString w ↔ w ∈ quoted '"' (symbol '"')∗ := by
  rw [Literal.isString, beq_iff_eq, Quoted.front?_eq_self_iff, mem_quoted]
  constructor
  · rintro ⟨u, rfl, hu⟩
    obtain ⟨v, hv, rfl⟩ := exists_symbols_of_tail? hu
    exact ⟨v, hv, rfl⟩
  · rintro ⟨v, hv, rfl⟩
    exact ⟨v ++ ['"'], rfl, tail?_of_symbols (by decide) hv⟩

/-- The texts of the shape of characters are one symbol between two quotes. -/
theorem isChar_iff_mem : Literal.isChar w ↔ w ∈ quoted '\'' (symbol '\'') := by
  rw [mem_quoted]
  constructor
  · intro h
    unfold Literal.isChar at h
    split at h
    · rename_i opening c closing
      simp only [Bool.and_eq_true, decide_eq_true_eq] at h
      obtain ⟨⟨⟨rfl, rfl⟩, hquote⟩, hbackslash⟩ := h
      exact ⟨[c], mem_symbol.2 (.inr ⟨c, ⟨hquote, hbackslash⟩, rfl⟩), rfl⟩
    · rename_i opening mark c closing
      simp only [Bool.and_eq_true, decide_eq_true_eq] at h
      obtain ⟨⟨⟨rfl, rfl⟩, rfl⟩, hc⟩ := h
      exact ⟨['\\', c], mem_symbol.2 (.inl ⟨c, hc, rfl⟩), rfl⟩
    · contradiction
  · rintro ⟨u, hu, rfl⟩
    rcases mem_symbol.1 hu with ⟨c, hc, rfl⟩ | ⟨c, ⟨hquote, hbackslash⟩, rfl⟩
    · simp [Literal.isChar, hc]
    · simp [Literal.isChar, hquote, hbackslash]

end

section

/-- Nothing more of a number can follow: the text behind it starts with no digit and no point. -/
def EndsNumber (rest : Text) : Prop := ∀ c ∈ rest.head?, Text.isDigit c = false ∧ c ≠ '.'

/-- The texts of a pattern are what is cut off before a text that ends them, and the parts that were
cut off have a property. -/
def IsCutWhere (l : Language Char) (P : Numeral → Prop) : Prop :=
  ∀ w rest, EndsNumber rest →
    (w ∈ l ↔ P (Numeral.read (w ++ rest)) ∧ (Numeral.read (w ++ rest)).rest = rest)

variable {l m : Language Char} {P Q : Numeral → Prop} {letters : List Char} {w rest : Text}

/-- The parts of a number are cut off again where nothing more of it can follow. -/
theorem read_body_append {n : Numeral} (hsign : n.sign ∈ sign)
    (hwhole : ∀ c ∈ n.whole, Text.isDigit c)
    (hfraction : ∀ digits ∈ n.fraction, ∀ c ∈ digits, Text.isDigit c) (hdigits : n.HasDigits)
    (hrest : EndsNumber n.rest) : Numeral.read (n.body ++ n.rest) = n := by
  apply Numeral.read_body_append_rest
  refine ⟨mem_sign.1 hsign, hwhole, hfraction, fun c hc => (hrest c hc).1, ?_, ?_⟩
  · intro _ hhead
    exact (hrest '.' hhead).2 rfl
  · intro hbody
    obtain ⟨hne, hnone⟩ : n.whole = [] ∧ n.fraction = none := by
      obtain ⟨s, whole, fraction, rest⟩ := n
      cases fraction <;> simp_all [Numeral.body]
    simp [Numeral.HasDigits, hne, hnone] at hdigits

/-- Before a text that ends them, what is left of a number is that text just when the number is all
that was cut off. -/
theorem rest_eq_iff : (Numeral.read (w ++ rest)).rest = rest ↔
    (Numeral.read (w ++ rest)).body = w := by
  rw [← Numeral.eq_body_append_iff, List.append_left_inj, eq_comm]

/-- A sign and digits around a point are cut off as a number with a point. -/
theorem isCutWhere_pointed :
    IsCutWhere (sign * pointed) fun n => n.HasDigits ∧ n.fraction.isSome := by
  intro w rest hrest
  rw [rest_eq_iff, Language.mem_mul]
  constructor
  · rintro ⟨s, hs, t, ht, rfl⟩
    obtain ⟨whole, fraction, hwhole, hfraction, hne, rfl⟩ := mem_pointed.1 ht
    let n : Numeral := ⟨s, whole, some fraction, rest⟩
    have hdigits : n.HasDigits := hne.imp_right fun hne => ⟨fraction, rfl, hne⟩
    have hread := read_body_append (n := n) hs hwhole (by simpa [n] using hfraction) hdigits hrest
    have hbody : n.body = s ++ (whole ++ '.' :: fraction) := by simp [n, Numeral.body]
    rw [← hbody, hread]
    exact ⟨⟨hdigits, rfl⟩, rfl⟩
  · rintro ⟨⟨hdigits, hpoint⟩, hbody⟩
    have hcut := Numeral.isCut_read (w ++ rest)
    generalize Numeral.read (w ++ rest) = n at *
    obtain ⟨fraction, hfraction⟩ := Option.isSome_iff_exists.1 hpoint
    refine ⟨n.sign, mem_sign.2 hcut.sign, n.whole ++ '.' :: fraction, mem_pointed.2 ?_, ?_⟩
    · refine ⟨n.whole, fraction, hcut.whole, hcut.fraction fraction hfraction, ?_, rfl⟩
      simpa [Numeral.HasDigits, hfraction] using hdigits
    · simpa [Numeral.body, hfraction] using hbody

/-- A sign and digits are cut off as a number without a point. -/
theorem isCutWhere_digits :
    IsCutWhere (sign * digits) fun n => n.HasDigits ∧ n.fraction = none := by
  intro w rest hrest
  rw [rest_eq_iff, Language.mem_mul]
  constructor
  · rintro ⟨s, hs, whole, hwhole, rfl⟩
    obtain ⟨hne, hwhole⟩ := mem_digits.1 hwhole
    let n : Numeral := ⟨s, whole, none, rest⟩
    have hread := read_body_append (n := n) hs hwhole (by simp [n]) (.inl hne) hrest
    have hbody : n.body = s ++ whole := Numeral.body_of_fraction_eq_none rfl
    rw [← hbody, hread]
    exact ⟨⟨.inl hne, rfl⟩, rfl⟩
  · rintro ⟨⟨hdigits, hfraction⟩, hbody⟩
    have hcut := Numeral.isCut_read (w ++ rest)
    generalize Numeral.read (w ++ rest) = n at *
    refine ⟨n.sign, mem_sign.2 hcut.sign, n.whole, mem_digits.2 ⟨?_, hcut.whole⟩, ?_⟩
    · simpa [Numeral.HasDigits, hfraction] using hdigits
    · rw [← hbody, Numeral.body_of_fraction_eq_none hfraction]

/-- A choice of two patterns of numbers. -/
theorem IsCutWhere.add (hl : IsCutWhere l P) (hm : IsCutWhere m Q) :
    IsCutWhere (l + m) fun n => P n ∨ Q n := by
  intro w rest hrest
  rw [Language.mem_add, hl w rest hrest, hm w rest hrest, or_and_right]

/-- A sign and digits, with a point or without, are cut off as a number. -/
theorem isCutWhere_pointed_or_digits :
    IsCutWhere (sign * pointed + sign * digits) Numeral.HasDigits := by
  intro w rest hrest
  refine (isCutWhere_pointed.add isCutWhere_digits w rest hrest).trans (and_congr_left fun _ => ?_)
  cases hpoint : (Numeral.read (w ++ rest)).fraction <;> simp [hpoint]

/-- A text is a number of a pattern when nothing is left behind the number. -/
theorem IsCutWhere.mem_iff (h : IsCutWhere l P) :
    w ∈ l ↔ P (Numeral.read w) ∧ (Numeral.read w).rest = [] := by
  simpa using h w [] (by simp [EndsNumber])

/-- A text is a number of a pattern and a letter when just that letter is left behind the number. -/
theorem IsCutWhere.mem_mul_letter_iff (h : IsCutWhere l P)
    (hletters : letters.all fun c => !Text.isDigit c && c != '.') :
    w ∈ l * letter letters ↔
      P (Numeral.read w) ∧ ∃ c ∈ letters, (Numeral.read w).rest = [c] := by
  have hends {c : Char} (hc : c ∈ letters) : EndsNumber [c] := by
    simpa [EndsNumber] using List.all_eq_true.1 hletters c hc
  rw [Language.mem_mul]
  constructor
  · rintro ⟨u, hu, -, ⟨c, hc, rfl⟩, rfl⟩
    obtain ⟨hP, hrest⟩ := (h u [c] (hends hc)).1 hu
    exact ⟨hP, c, hc, hrest⟩
  · rintro ⟨hP, c, hc, hrest⟩
    have hw : (Numeral.read w).body ++ [c] = w := (Numeral.eq_body_append_iff.2 hrest).symm
    refine ⟨(Numeral.read w).body, ?_, [c], ⟨c, hc, rfl⟩, hw⟩
    rw [h _ [c] (hends hc), hw]
    exact ⟨hP, hrest⟩

end

end Pattern

end DeclLang
