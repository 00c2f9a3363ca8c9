import DeclLang.Proofs.SinglePass
import DeclLang.Proofs.TokenTiling
import Mathlib.Data.List.Induction

/-!
# Readings without comments

The syntax phase puts a blank in place of every comment. Where no literal holds a comment mark this
does to the text what it does to the reading: a comment becomes a blank and every lexeme is read as
before. A reading without comments can be taken apart from both ends, blank by blank and token by
token, and its parts are readings again.
-/

namespace DeclLang

namespace Text

/-- A text breaks like any other when both go on behind the same text. -/
theorem BreaksLike.append {s t : Text} (h : t.BreaksLike s) (w : Text) :
    (w ++ t).BreaksLike (w ++ s) := by
  cases w with
  | nil => exact h
  | cons c w => exact .inl rfl

/-- The end of the text breaks like anything. -/
theorem nil_breaksLike (s : Text) : BreaksLike [] s := .inr (by simp)

end Text

namespace Comment

/-- No comment starts at a character of a text in front of a rest. -/
def StartsNoneIn (rest : Text) : Text → Prop
  | [] => True
  | c :: w => front? (c :: (w ++ rest)) = none ∧ StartsNoneIn rest w

/-- No comment starts in a text that neither holds an opening mark nor ends with half of one. -/
theorem startsNoneIn_of_not_infix {w : Text} (hline : ¬ ['/', '/'] <:+: w)
    (hblock : ¬ ['/', '*'] <:+: w) (hlast : ∀ c ∈ w.getLast?, c ≠ '/') (rest : Text) :
    StartsNoneIn rest w := by
  induction w with
  | nil => trivial
  | cons c w ih =>
    have hnone : front? (c :: (w ++ rest)) = none := by
      by_cases hc : c = '/'
      · subst hc
        cases w with
        | nil => exact absurd rfl (hlast '/' rfl)
        | cons d w =>
          have hslash : d ≠ '/' := by
            rintro rfl
            exact hline ⟨[], w, rfl⟩
          have hstar : d ≠ '*' := by
            rintro rfl
            exact hblock ⟨[], w, rfl⟩
          unfold front?
          split <;> simp_all
      · exact front?_eq_none (by simpa using hc)
    have hinfix {u : Text} (h : u <:+: w) : u <:+: c :: w := h.trans (List.suffix_cons c w).isInfix
    have hlast' : ∀ d ∈ w.getLast?, d ≠ '/' := by
      intro d hd
      apply hlast d
      rw [Option.mem_def, List.getLast?_cons, Option.mem_def.1 hd]
      rfl
    exact ⟨hnone, ih (mt hinfix hline) (mt hinfix hblock) hlast'⟩

/-- Stripping leaves a text alone in which no comment starts. -/
theorem strip_append {w rest : Text} (h : StartsNoneIn rest w) :
    strip (w ++ rest) = w ++ strip rest := by
  induction w with
  | nil => rfl
  | cons c w ih =>
    obtain ⟨hnone, hrest⟩ := h
    rw [List.cons_append, strip, hnone]
    exact congrArg (c :: ·) (ih hrest)

/-- Stripping puts a blank in place of a comment. -/
theorem strip_comment {w rest : Text} (h : front? (w ++ rest) = some w) :
    strip (w ++ rest) = ' ' :: strip rest := by
  obtain ⟨w, rfl⟩ := List.head?_eq_some_iff.1 (head?_of_front? h)
  rw [List.cons_append] at h ⊢
  rw [strip, h]
  simp

end Comment

/-- A kind and a lexeme, which is what is left of a token without its place. -/
structure Spelling where
  kind : Token.Kind
  lexeme : Text
deriving DecidableEq, Repr

/-- A token without its place. -/
def Token.spelling (t : Token) : Spelling := ⟨t.kind, t.lexeme⟩

/-- A literal holds no mark that the syntax phase would find in it. -/
def Spelling.IsQuiet (s : Spelling) : Prop :=
  s.kind = .string ∨ s.kind = .char →
    ';' ∉ s.lexeme ∧ ¬ ['/', '/'] <:+: s.lexeme ∧ ¬ ['/', '*'] <:+: s.lexeme

instance (s : Spelling) : Decidable s.IsQuiet := inferInstanceAs (Decidable (_ → _))

namespace Stretch

/-- A stretch with a blank in place of a comment. -/
def plain : Stretch → Stretch
  | comment _ => blank ' '
  | x => x

/-- The kind and the lexeme of a stretch, if it is a token. -/
def spellings : Stretch → List Spelling
  | token kind w => [⟨kind, w⟩]
  | blank _ | comment _ => []

@[simp] theorem spellings_plain (x : Stretch) : x.plain.spellings = x.spellings := by
  cases x <;> rfl

/-- Stripping the comments of a text does to the stretch at its front what `plain` does. -/
theorem strip_text_append {x : Stretch} {rest : Text} (hx : x.IsRead rest)
    (hquiet : ∀ s ∈ x.spellings, s.IsQuiet) :
    Comment.strip (x.text ++ rest) = x.plain.text ++ Comment.strip rest := by
  cases x with
  | blank c =>
    have hc : c ≠ '/' := Text.ne_of_isBlank hx (by decide)
    have hnone : Comment.front? (c :: rest) = none := Comment.front?_eq_none (by simpa using hc)
    simp only [text, plain, List.singleton_append]
    rw [Comment.strip, hnone]
  | comment w => exact Comment.strip_comment hx
  | token kind w =>
    have hform := Token.IsRead.form hx
    obtain ⟨hline, hblock⟩ : ¬ ['/', '/'] <:+: w ∧ ¬ ['/', '*'] <:+: w := by
      by_cases hkind : kind = .string ∨ kind = .char
      · exact (hquiet ⟨kind, w⟩ List.mem_cons_self hkind).2
      · have hslash : '/' ∉ w := fun hmem =>
          (hform.isSolid (hkind ∘ .inl) (hkind ∘ .inr) '/' hmem).2.2.2 rfl
        exact ⟨fun h => hslash (h.subset (by simp)), fun h => hslash (h.subset (by simp))⟩
    exact Comment.strip_append
      (Comment.startsNoneIn_of_not_infix hline hblock (fun c hc => (hform.isEdge (.inr hc)).2) rest)

end Stretch

namespace Reading

/-- A reading with blanks in place of comments. -/
def plain (r : Reading) : Reading := r.map Stretch.plain

/-- The kinds and the lexemes of the tokens of a reading. -/
def spellings (r : Reading) : List Spelling := r.flatMap Stretch.spellings

@[simp] theorem spellings_nil : spellings [] = [] := rfl

@[simp] theorem spellings_cons (x : Stretch) (r : Reading) :
    spellings (x :: r) = x.spellings ++ spellings r := rfl

@[simp] theorem spellings_append (r r' : Reading) :
    spellings (r ++ r') = spellings r ++ spellings r' := List.flatMap_append

/-- The tokens of a reading have its spellings, wherever it starts. -/
theorem map_spelling_tokensFrom (r : Reading) (offset : Nat) :
    (tokensFrom offset r).map Token.spelling = spellings r := by
  induction r generalizing offset with
  | nil => rfl
  | cons x r ih =>
    rw [tokensFrom, List.map_append, ih, spellings_cons]
    cases x <;> rfl

/-- Blanks in place of comments change no spelling. -/
theorem spellings_plain (r : Reading) : spellings (plain r) = spellings r := by
  induction r with
  | nil => rfl
  | cons x r ih =>
    have hcons : plain (x :: r) = x.plain :: plain r := rfl
    rw [hcons, spellings_cons, spellings_cons, ih, Stretch.spellings_plain]

/-- Stripping the comments of a text makes its reading plain. -/
theorem strip_text {r : Reading} (hr : r.IsReadBefore []) (hquiet : ∀ s ∈ spellings r, s.IsQuiet) :
    Comment.strip r.text = (plain r).text := by
  induction r with
  | nil => rw [text_nil, Comment.strip]; rfl
  | cons x r ih =>
    obtain ⟨hx, hrest⟩ := hr
    rw [List.append_nil] at hx
    obtain ⟨hxquiet, hrquiet⟩ := List.forall_mem_append.1 hquiet
    rw [text_cons, Stretch.strip_text_append hx hxquiet, ih hrest hrquiet]
    rfl

/-- A reading of a whole text in which there is no comment. -/
inductive IsPlain : Reading → Prop
  | nil : IsPlain []
  | blank {c : Char} {r : Reading} : Text.isBlank c → IsPlain r → IsPlain (.blank c :: r)
  | token {kind : Token.Kind} {w : Text} {r : Reading} :
      Token.IsRead kind w (text r) → IsPlain r → IsPlain (.token kind w :: r)

/-- A plain reading is a reading. -/
theorem IsPlain.isReadBefore {r : Reading} (h : r.IsPlain) : r.IsReadBefore [] := by
  induction h with
  | nil => trivial
  | blank hc _ ih => exact ⟨hc, ih⟩
  | token hw _ ih => exact ⟨(List.append_nil _).symm ▸ hw, ih⟩

/-- A text breaks in the same way when the comments in it become blanks. -/
theorem text_plain_breaksLike {r : Reading} (hr : r.IsReadBefore []) :
    (plain r).text.BreaksLike r.text := by
  cases r with
  | nil => exact .inl rfl
  | cons x r =>
    cases x with
    | blank c => exact .inl rfl
    | comment w =>
      right
      rintro c ⟨⟩
      decide
    | token kind w =>
      obtain ⟨c, w, rfl⟩ := List.exists_cons_of_ne_nil (Token.IsRead.form hr.1).ne_nil
      exact .inl rfl

/-- A reading stays one when the comments in it become blanks. -/
theorem isPlain_plain {r : Reading} (hr : r.IsReadBefore []) : (plain r).IsPlain := by
  induction r with
  | nil => exact .nil
  | cons x r ih =>
    obtain ⟨hx, hrest⟩ := hr
    rw [List.append_nil] at hx
    cases x with
    | blank c => exact .blank hx (ih hrest)
    | comment w => exact .blank (by decide) (ih hrest)
    | token kind w =>
      exact .token (Token.IsRead.of_breaksLike hx (text_plain_breaksLike hrest)) (ih hrest)

/-- The parts of a plain reading are plain. -/
theorem isPlain_append {r r' : Reading} (h : IsPlain (r ++ r')) : r.IsPlain ∧ r'.IsPlain := by
  induction r with
  | nil => exact ⟨.nil, h⟩
  | cons x r ih =>
    rw [List.cons_append] at h
    cases h with
    | blank hc h => exact ⟨.blank hc (ih h).1, (ih h).2⟩
    | @token kind w _ hw h =>
      have hbreaks := (Text.nil_breaksLike (text r')).append (text r)
      rw [List.append_nil, ← text_append] at hbreaks
      exact ⟨.token (hw.of_breaksLike hbreaks) (ih h).1, (ih h).2⟩

/-- The stretches of a plain reading. -/
theorem IsPlain.cases_of_mem {r : Reading} (h : r.IsPlain) {x : Stretch} (hx : x ∈ r) :
    (∃ c, x = .blank c ∧ Text.isBlank c) ∨ ∃ kind w, x = .token kind w ∧ Token.Form kind w := by
  induction h with
  | nil => contradiction
  | blank hc _ ih =>
    rcases List.mem_cons.1 hx with rfl | hx
    · exact .inl ⟨_, rfl, hc⟩
    · exact ih hx
  | token hw _ ih =>
    rcases List.mem_cons.1 hx with rfl | hx
    · exact .inr ⟨_, _, rfl, hw.form⟩
    · exact ih hx

/-- Only an empty text has no token, if it starts with no blank. -/
theorem IsPlain.spellings_eq_nil_iff {r : Reading} (h : r.IsPlain)
    (hhead : ∀ c ∈ r.text.head?, Text.isBlank c = false) : r.spellings = [] ↔ r.text = [] := by
  cases h with
  | nil => simp
  | @blank c _ hc => simp [hhead c rfl] at hc
  | token hw => simp [Stretch.spellings, Stretch.text, hw.form.ne_nil]

/-- A plain text without the blanks at its front has a reading with the same tokens. -/
theorem IsPlain.exists_trimLeft {r : Reading} (h : r.IsPlain) :
    ∃ r' : Reading, r'.text = Text.trimLeft r.text ∧ r'.spellings = spellings r ∧ r'.IsPlain := by
  induction h with
  | nil => exact ⟨[], rfl, rfl, .nil⟩
  | blank hc _ ih =>
    obtain ⟨r', htext, hspellings, hr'⟩ := ih
    refine ⟨r', ?_, hspellings, hr'⟩
    rw [htext, text_cons, Text.trimLeft, Text.trimLeft]
    exact (List.dropWhile_cons_of_pos hc).symm
  | @token kind w r hw hr =>
    have hhead : ∀ c ∈ (w ++ text r).head?, Text.isBlank c = false :=
      fun c hc => (hw.form.isEdge_head _ c hc).1
    exact ⟨.token kind w :: r, (Text.dropWhile_eq_self hhead).symm, rfl, .token hw hr⟩

/-- A plain text without the blanks at its end has a reading with the same tokens. -/
theorem IsPlain.exists_trimRight {r : Reading} (h : r.IsPlain) :
    ∃ r' : Reading, r'.text = Text.trimRight r.text ∧ r'.spellings = spellings r ∧ r'.IsPlain := by
  induction r using List.reverseRecOn with
  | nil => exact ⟨[], rfl, rfl, h⟩
  | append_singleton r x ih =>
    obtain ⟨hr, hx⟩ := isPlain_append h
    cases hx with
    | @blank c _ hc =>
      obtain ⟨r', htext, hspellings, hr'⟩ := ih hr
      have hspellings' : spellings r' = spellings (r ++ [Stretch.blank c]) := by
        rw [hspellings, spellings_append]
        exact (List.append_nil _).symm
      refine ⟨r', ?_, hspellings', hr'⟩
      have hdrop : (text (r ++ [Stretch.blank c])).reverse.dropWhile Text.isBlank =
          (text r).reverse.dropWhile Text.isBlank := by
        rw [text_append, List.reverse_append]
        exact List.dropWhile_cons_of_pos hc
      rw [htext, Text.trimRight, Text.trimRight, hdrop]
    | @token kind w _ hw =>
      refine ⟨r ++ [.token kind w], ?_, rfl, h⟩
      have hlast : ∀ c ∈ (text (r ++ [Stretch.token kind w])).reverse.head?,
          Text.isBlank c = false := by
        intro c hc
        rw [List.head?_reverse, text_append] at hc
        refine (hw.form.isEdge (.inr ?_)).1
        simpa [Stretch.text, List.getLast?_append_of_ne_nil _ hw.form.ne_nil] using hc
      rw [Text.trimRight, Text.dropWhile_eq_self hlast, List.reverse_reverse]

/-- A plain text without the blanks at its ends has a reading with the same tokens. -/
theorem IsPlain.exists_trim {r : Reading} (h : r.IsPlain) :
    ∃ r' : Reading, r'.text = Text.trim r.text ∧ r'.spellings = spellings r ∧ r'.IsPlain := by
  obtain ⟨r₁, htext₁, hspellings₁, hr₁⟩ := h.exists_trimLeft
  obtain ⟨r₂, htext₂, hspellings₂, hr₂⟩ := hr₁.exists_trimRight
  exact ⟨r₂, by rw [htext₂, htext₁, Text.trim], by rw [hspellings₂, hspellings₁], hr₂⟩

/-- Blanks and a lexeme that is read behind them are the front of the reading. -/
theorem IsPlain.exists_of_text {r : Reading} (h : r.IsPlain) {kind : Token.Kind}
    {blanks w s : Text} (htext : r.text = blanks ++ (w ++ s))
    (hblanks : ∀ c ∈ blanks, Text.isBlank c) (hw : Token.IsRead kind w s) :
    ∃ r' : Reading, r'.text = s ∧ r.spellings = ⟨kind, w⟩ :: spellings r' ∧ r'.IsPlain := by
  induction h generalizing blanks with
  | nil =>
    have hempty := List.append_eq_nil_iff.1 (List.append_eq_nil_iff.1 htext.symm).2
    exact absurd hempty.1 hw.form.ne_nil
  | @blank c r hc hr ih =>
    cases blanks with
    | nil =>
      have hhead : c ∈ (w ++ s).head? := (congrArg List.head? htext).symm
      rw [(hw.form.isEdge_head s c hhead).1] at hc
      contradiction
    | cons d blanks =>
      exact ih (List.cons.inj htext).2 (List.forall_mem_cons.1 hblanks).2
  | @token kind' w' r hw' hr ih =>
    cases blanks with
    | nil =>
      obtain ⟨rfl, rfl, rfl⟩ := hw'.unique hw htext
      exact ⟨r, rfl, rfl, hr⟩
    | cons d blanks =>
      have hhead : d ∈ (w' ++ text r).head? := congrArg List.head? htext
      have hd := hblanks d List.mem_cons_self
      rw [(hw'.form.isEdge_head _ d hhead).1] at hd
      contradiction

/-- The first token of a reading stands behind blanks. -/
theorem IsPlain.exists_of_spellings {r : Reading} (h : r.IsPlain) {kind : Token.Kind} {w : Text}
    {later : List Spelling} (hspellings : r.spellings = ⟨kind, w⟩ :: later) :
    ∃ (blanks : Text) (r' : Reading), r.text = blanks ++ (w ++ r'.text) ∧
      (∀ c ∈ blanks, Text.isBlank c) ∧ Token.IsRead kind w r'.text ∧ r'.spellings = later ∧
        r'.IsPlain := by
  induction h with
  | nil => contradiction
  | @blank c r hc _ ih =>
    obtain ⟨blanks, r', htext, hblanks, hw, hlater, hr'⟩ := ih hspellings
    refine ⟨c :: blanks, r', ?_, List.forall_mem_cons.2 ⟨hc, hblanks⟩, hw, hlater, hr'⟩
    rw [text_cons, htext]
    rfl
  | @token _ _ r hw hr =>
    obtain ⟨hfirst, hlater⟩ := List.cons.inj hspellings
    obtain ⟨rfl, rfl⟩ := Spelling.mk.inj hfirst
    exact ⟨[], r, rfl, by simp, hw, hlater, hr⟩

end Reading

end DeclLang
