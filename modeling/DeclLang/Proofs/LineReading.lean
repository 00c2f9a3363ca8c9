import DeclLang.Proofs.CommentRanges
import DeclLang.Proofs.LineBreak
import DeclLang.Proofs.Pieces
import DeclLang.Viewer.SourcePane

/-!
# Readings line by line

A comment may run over several lines but no lexeme does. With its comments taken apart into
characters, a reading of a source falls into readings of its lines: they have the texts of the
lines, stand at their byte offsets, and hold all tokens of the source. A carriage return at the end
of a line belongs to no token, so this stays when it is dropped.
-/

namespace DeclLang

/-- Things with texts that stand side by side, with the byte offsets where they start. -/
def placed {α : Type} (text : α → Text) (offset : Nat) : List α → List (Nat × α)
  | [] => []
  | x :: rest => (offset, x) :: placed text (offset + (text x).byteSize) rest

/-- A text at a byte offset lies in one of the given byte ranges. -/
def LiesIn (ranges : List (Nat × Nat)) (start : Nat) (w : Text) : Prop :=
  ∃ range ∈ ranges, range.1 ≤ start ∧ start + w.byteSize ≤ range.2

section

variable {α : Type} {text : α → Text}

/-- Of things in two parts the later ones start behind the text of the earlier ones. -/
theorem placed_append (l l' : List α) (offset : Nat) :
    placed text offset (l ++ l') =
      placed text offset l ++ placed text (offset + Text.byteSize (l.flatMap text)) l' := by
  induction l generalizing offset with
  | nil => rfl
  | cons x l ih =>
    rw [List.cons_append, placed, ih, placed, List.flatMap_cons, Text.byteSize_append,
      Nat.add_assoc, List.cons_append]

/-- A thing starts where the text of the earlier ones ends. -/
theorem exists_of_mem_placed {l : List α} {offset i : Nat} {x : α}
    (h : (i, x) ∈ placed text offset l) :
    ∃ l₁ l₂, l = l₁ ++ x :: l₂ ∧ i = offset + Text.byteSize (l₁.flatMap text) := by
  induction l generalizing offset with
  | nil => contradiction
  | cons y l ih =>
    rcases List.mem_cons.1 h with hfirst | hlater
    · obtain ⟨rfl, rfl⟩ := Prod.mk.inj hfirst
      exact ⟨[], l, rfl, rfl⟩
    · obtain ⟨l₁, l₂, rfl, hstart⟩ := ih hlater
      refine ⟨y :: l₁, l₂, rfl, ?_⟩
      rw [hstart, List.flatMap_cons, Text.byteSize_append, Nat.add_assoc]

/-- A thing lies in the text of all of them. -/
theorem bounds_of_mem_placed {l : List α} {offset i : Nat} {x : α}
    (h : (i, x) ∈ placed text offset l) :
    offset ≤ i ∧ i + (text x).byteSize ≤ offset + Text.byteSize (l.flatMap text) := by
  obtain ⟨l₁, l₂, rfl, rfl⟩ := exists_of_mem_placed h
  simp only [List.flatMap_append, List.flatMap_cons, Text.byteSize_append]
  omega

end

/-- A lexeme holds no newline. -/
theorem Token.Form.newline_notMem {kind : Token.Kind} {w : Text} (h : Token.Form kind w) :
    '\n' ∉ w := by
  have hinner (hstring : kind ≠ .string) (hchar : kind ≠ .char) : '\n' ∉ w :=
    fun hmem => absurd (h.isSolid hstring hchar '\n' hmem) (by decide)
  cases h with
  | literal hquote htail =>
    obtain ⟨body, rfl, hbody⟩ := Quoted.tail?_eq_append htail
    rcases hquote with ⟨-, rfl⟩ | ⟨-, rfl⟩ <;> simp [hbody rfl]
  | number => exact hinner (by simp) (by simp)
  | word => exact hinner (Word.kind_ne_literal _).1 (Word.kind_ne_literal _).2
  | operator => exact hinner (by simp) (by simp)
  | punctuation => exact hinner (by simp) (by simp)

namespace Stretch

/-- A blank, a character of a comment that is not blank, or a lexeme. -/
inductive IsAtom : Stretch → Prop
  | blank {c : Char} : Text.isBlank c → IsAtom (blank c)
  | comment {c : Char} : Text.isBlank c = false → IsAtom (comment [c])
  | token {kind : Token.Kind} {w : Text} : Token.Form kind w → IsAtom (token kind w)

/-- An atom is not empty. -/
theorem IsAtom.text_ne_nil {x : Stretch} (hx : x.IsAtom) : x.text ≠ [] := by
  cases hx with
  | token hform => exact hform.ne_nil
  | _ => simp [text]

/-- Of all atoms only the newline itself holds a newline. -/
theorem IsAtom.eq_newline {x : Stretch} (hx : x.IsAtom) (h : '\n' ∈ x.text) : x = .blank '\n' := by
  cases hx with
  | blank => rw [List.mem_singleton.1 h]
  | comment hc =>
    rw [← List.mem_singleton.1 h] at hc
    contradiction
  | token hform => exact absurd h hform.newline_notMem

/-- Of all atoms only the carriage return itself ends with one. -/
theorem IsAtom.eq_return {x : Stretch} (hx : x.IsAtom) (h : x.text.getLast? = some '\r') :
    x = .blank '\r' := by
  cases hx with
  | blank => rw [List.mem_singleton.1 (List.mem_of_mem_getLast? h)]
  | comment hc =>
    rw [← List.mem_singleton.1 (List.mem_of_mem_getLast? h)] at hc
    contradiction
  | token hform => exact absurd (hform.isEdge (.inr h)) (by decide)

/-- An atom of trivia is one character, a blank or a character of a comment. -/
theorem IsAtom.exists_char {x : Stretch} (hx : x.IsAtom) (htrivia : x.isTrivia) :
    ∃ c, x.text = [c] ∧ (Text.isBlank c ∨ x = .comment [c]) := by
  cases hx with
  | @blank c hc => exact ⟨c, rfl, .inl hc⟩
  | @comment c => exact ⟨c, rfl, .inr rfl⟩
  | token => contradiction

/-- A stretch in atoms: a comment goes character by character, and its blanks are blanks. -/
def atoms : Stretch → Reading
  | comment w => w.map fun c => if Text.isBlank c then blank c else comment [c]
  | x => [x]

/-- A stretch that is read falls into atoms. -/
theorem isAtom_of_mem_atoms {x y : Stretch} {rest : Text} (hx : x.IsRead rest) (hy : y ∈ x.atoms) :
    y.IsAtom := by
  cases x with
  | blank c =>
    obtain rfl := List.mem_singleton.1 hy
    exact .blank hx
  | comment w =>
    obtain ⟨c, -, rfl⟩ := List.mem_map.1 hy
    by_cases hc : Text.isBlank c
    · rw [if_pos hc]
      exact .blank hc
    · rw [if_neg hc]
      exact .comment (by simpa using hc)
  | token kind w =>
    obtain rfl := List.mem_singleton.1 hy
    exact .token (Token.IsRead.form hx)

/-- The atoms of a stretch make up its text. -/
theorem text_atoms (x : Stretch) : Reading.text x.atoms = x.text := by
  cases x with
  | blank c | token kind w => simp [atoms, Reading.text]
  | comment w =>
    have hchar (c : Char) : (if Text.isBlank c then blank c else comment [c]).text = [c] := by
      split <;> rfl
    rw [atoms, Reading.text, List.flatMap_map]
    simp only [hchar]
    simp [text]

/-- The atoms of a stretch have its token. -/
theorem tokensFrom_atoms (x : Stretch) (offset : Nat) :
    Reading.tokensFrom offset x.atoms = x.tokensAt offset := by
  cases x with
  | blank c | token kind w => exact List.append_nil _
  | comment w =>
    apply Reading.tokensFrom_trivia
    intro y hy
    obtain ⟨c, -, rfl⟩ := List.mem_map.1 hy
    split <;> rfl

end Stretch

namespace Reading

/-- A reading is built from its end by putting trivia or tokens in front. -/
@[elab_as_elim]
theorem recTriviaToken {motive : Reading → Prop} (nil : motive [])
    (trivia : ∀ x rest, x.isTrivia → motive rest → motive (x :: rest))
    (token : ∀ kind w rest, motive rest → motive (.token kind w :: rest)) (r : Reading) :
    motive r := by
  induction r with
  | nil => exact nil
  | cons x rest ih =>
    cases x with
    | blank c | comment w => exact trivia _ rest rfl ih
    | token kind w => exact token kind w rest ih

/-- A piece of trivia in front of a reading has no token. -/
theorem tokensFrom_cons_of_isTrivia {x : Stretch} (htrivia : x.isTrivia) (r : Reading)
    (offset : Nat) : tokensFrom offset (x :: r) = tokensFrom (offset + x.text.byteSize) r := by
  cases x with
  | blank c | comment w => rfl
  | token kind w => contradiction

/-- A token of a reading in atoms is not empty and lies in its text. -/
theorem span_of_mem_tokensFrom {r : Reading} (hr : ∀ x ∈ r, x.IsAtom) {offset : Nat} {t : Token}
    (h : t ∈ r.tokensFrom offset) :
    offset ≤ t.start ∧ t.start < t.stop ∧ t.stop ≤ offset + r.text.byteSize := by
  obtain ⟨r₁, r₂, rfl, hstart, hstop⟩ := exists_of_mem_tokensFrom h
  have hpos : 0 < t.lexeme.byteSize :=
    Text.byteSize_pos (hr (.token t.kind t.lexeme) (by simp)).text_ne_nil
  simp only [text_append, text_cons, Text.byteSize_append, Stretch.text]
  omega

/-- The tokens of a reading in atoms end one behind the other. -/
theorem pairwise_stop_tokensFrom {r : Reading} (hr : ∀ x ∈ r, x.IsAtom) (offset : Nat) :
    (r.tokensFrom offset).Pairwise (·.stop < ·.stop) := by
  refine (pairwise_tokensFrom r offset).imp_of_mem fun _ hu hstop => ?_
  have := span_of_mem_tokensFrom hr hu
  omega

/-- A character in the text of trivia is a blank or a character of a comment. -/
theorem mem_placed_of_mem_placed_text {r : Reading} (hr : ∀ x ∈ r, x.IsAtom ∧ x.isTrivia)
    {offset i : Nat} {c : Char} (h : (i, c) ∈ placed List.singleton offset r.text) :
    Text.isBlank c ∨ (i, Stretch.comment [c]) ∈ placed Stretch.text offset r := by
  induction r generalizing offset with
  | nil => contradiction
  | cons x r ih =>
    obtain ⟨⟨hatom, htrivia⟩, hrest⟩ := List.forall_mem_cons.1 hr
    obtain ⟨d, hd, hkind⟩ := hatom.exists_char htrivia
    rw [text_cons, hd] at h
    rw [placed, hd]
    rcases List.mem_cons.1 h with hfirst | hlater
    · obtain ⟨rfl, rfl⟩ := Prod.mk.inj hfirst
      rcases hkind with hblank | rfl
      · exact .inl hblank
      · exact .inr List.mem_cons_self
    · exact (ih hrest hlater).imp_right (List.mem_cons_of_mem _)

/-- A reading in atoms. -/
def atoms (r : Reading) : Reading := r.flatMap Stretch.atoms

/-- A reading falls into atoms. -/
theorem isAtom_of_mem_atoms {r : Reading} {rest : Text} (hr : r.IsReadBefore rest) :
    ∀ x ∈ r.atoms, x.IsAtom := by
  induction r with
  | nil => simp [atoms]
  | cons x r ih =>
    rw [atoms, List.flatMap_cons]
    exact List.forall_mem_append.2 ⟨fun y hy => Stretch.isAtom_of_mem_atoms hr.1 hy, ih hr.2⟩

/-- The atoms of a reading make up its text. -/
theorem text_atoms (r : Reading) : r.atoms.text = r.text := by
  induction r with
  | nil => rfl
  | cons x r ih =>
    rw [atoms, List.flatMap_cons, text_append, Stretch.text_atoms, text_cons]
    exact congrArg (x.text ++ ·) ih

/-- The atoms of a reading have its tokens. -/
theorem tokensFrom_atoms (r : Reading) (offset : Nat) :
    tokensFrom offset r.atoms = tokensFrom offset r := by
  induction r generalizing offset with
  | nil => rfl
  | cons x r ih =>
    rw [atoms, List.flatMap_cons, tokensFrom_append, Stretch.tokensFrom_atoms, Stretch.text_atoms,
      tokensFrom]
    exact congrArg (x.tokensAt offset ++ ·) (ih _)

/-- A character of a comment that is read lies in the range of a comment. -/
theorem liesIn_of_mem_placed {r : Reading} {rest : Text} (hr : r.IsReadBefore rest)
    {offset i : Nat} {c : Char} (h : (i, .comment [c]) ∈ placed Stretch.text offset r.atoms) :
    LiesIn (Segment.rangesFrom .comment offset (Segment.split (r.text ++ rest))) i [c] := by
  induction r generalizing offset with
  | nil => contradiction
  | cons x r ih =>
    obtain ⟨hx, hrest⟩ := hr
    have hatoms : x.atoms.flatMap Stretch.text = x.text := Stretch.text_atoms x
    rw [atoms, List.flatMap_cons, placed_append, hatoms] at h
    rw [text_cons, List.append_assoc, Stretch.split_text_append hx, Segment.rangesFrom_append,
      Stretch.flatMap_text_segments]
    rcases List.mem_append.1 h with hfirst | hlater
    · -- only comments fall into characters of comments
      cases x with
      | blank d | token kind w =>
        obtain ⟨l₁, l₂, hl, -⟩ := exists_of_mem_placed hfirst
        simp [Stretch.atoms, List.singleton_eq_append_iff] at hl
      | comment w =>
        have hbounds := bounds_of_mem_placed hfirst
        rw [hatoms] at hbounds
        exact ⟨_, List.mem_append_left _ List.mem_cons_self, hbounds⟩
    · obtain ⟨range, hmem, hrange⟩ := ih hrest hlater
      exact ⟨range, List.mem_append_right _ hmem, hrange⟩

/-- A reading in atoms falls at its newlines into the lines of its text. -/
theorem splitLines_text {r : Reading} (hr : ∀ x ∈ r, x.IsAtom) :
    Text.splitLines r.text = (r.splitOn (.blank '\n')).map text := by
  rw [Text.splitLines, List.splitOn_eq_splitOnP, List.splitOn_eq_splitOnP, text,
    splitOnP_flatMap (p := (· == .blank '\n')) (q := (· == '\n')) (f := Stretch.text) (l := r)]
  · rfl
  · intro x _ hx
    rw [beq_iff_eq.1 hx]
    exact ⟨'\n', rfl, rfl⟩
  · intro x hx hother c hc
    rw [beq_eq_false_iff_ne] at hother ⊢
    rintro rfl
    exact hother ((hr x hx).eq_newline hc)

/-- A line without the carriage return at its end, if it has one. -/
def dropReturn (line : Reading) : Reading :=
  if line.getLast? = some (.blank '\r') then line.dropLast else line

/-- A line goes on with trivia where it is no longer shown. -/
theorem exists_dropReturn (line : Reading) :
    ∃ tail, line = dropReturn line ++ tail ∧ ∀ x ∈ tail, x.isTrivia := by
  rw [dropReturn]
  split
  · rename_i hlast
    exact ⟨[.blank '\r'], (List.dropLast_append_getLast? _ hlast).symm, by simp [Stretch.isTrivia]⟩
  · exact ⟨[], by simp⟩

/-- Dropping the carriage return of a line drops that of its text. -/
theorem text_dropReturn {line : Reading} (h : ∀ x ∈ line, x.IsAtom) :
    text (dropReturn line) = Text.dropReturn line.text := by
  rcases List.eq_nil_or_concat' line with rfl | ⟨front, x, rfl⟩
  · rfl
  · have hx : x.IsAtom := h x (by simp)
    have hlast : (text (front ++ [x])).getLast? = x.text.getLast? := by
      rw [text_append, text_cons, text_nil, List.append_nil,
        List.getLast?_append_of_ne_nil _ hx.text_ne_nil]
    rw [dropReturn, Text.dropReturn, hlast, List.getLast?_concat]
    by_cases hreturn : x = .blank '\r'
    · subst hreturn
      simp [Stretch.text]
    · rw [if_neg (by simpa using hreturn), if_neg (hreturn ∘ hx.eq_return)]

/-- A line has the tokens of what is shown of it. -/
theorem tokensFrom_dropReturn (line : Reading) (offset : Nat) :
    tokensFrom offset (dropReturn line) = tokensFrom offset line := by
  obtain ⟨tail, hline, htail⟩ := exists_dropReturn line
  conv_rhs => rw [hline, tokensFrom_append, tokensFrom_trivia htail, List.append_nil]

/-- The lines of a reading as they are shown, with the byte offsets where they start. -/
def shownFrom (offset : Nat) : List Reading → List (Nat × Reading)
  | [] => []
  | line :: rest => (offset, dropReturn line) :: shownFrom (offset + line.text.byteSize + 1) rest

/-- The lines of a reading that are shown are those of its text. -/
theorem map_text_shownFrom {lines : List Reading} (h : ∀ line ∈ lines, ∀ x ∈ line, x.IsAtom)
    (offset : Nat) :
    (shownFrom offset lines).map (fun p => (p.1, text p.2)) =
      (SourcePane.withOffsets offset (lines.map text)).map fun p => (p.1, Text.dropReturn p.2) := by
  induction lines generalizing offset with
  | nil => rfl
  | cons line rest ih =>
    obtain ⟨hline, hrest⟩ := List.forall_mem_cons.1 h
    rw [shownFrom, List.map_cons, ih hrest, text_dropReturn hline]
    rfl

/-- The lines that are shown of a text are those of its reading in atoms. -/
theorem shownLines_text {r : Reading} (hr : ∀ x ∈ r, x.IsAtom) :
    SourcePane.shownLines r.text =
      (shownFrom 0 (r.splitOn (.blank '\n'))).map fun p => (p.1, text p.2) := by
  have hlines : ∀ line ∈ r.splitOn (.blank '\n'), ∀ x ∈ line, x.IsAtom := by
    rw [List.splitOn_eq_splitOnP]
    refine forall_mem_splitOnP (fun first sep rest hall => ?_) hr
    exact ⟨fun x hx => hall x (by simp [hx]), fun x hx => hall x (by simp [hx])⟩
  rw [SourcePane.shownLines, splitLines_text hr]
  exact (map_text_shownFrom hlines 0).symm

/-- Lines with newlines between them start with the first one. -/
theorem exists_intercalate_cons (line : Reading) (rest : List Reading) :
    ∃ below : Reading, [Stretch.blank '\n'].intercalate (line :: rest) = line ++ below := by
  cases rest with
  | nil => exact ⟨[], by simp⟩
  | cons next rest =>
    exact ⟨_, by rw [List.intercalate_cons_cons, List.append_assoc]⟩

/-- A line that is shown stands at its offset in the reading. -/
theorem exists_of_mem_shownFrom {lines : List Reading} {offset start : Nat} {shown : Reading}
    (h : (start, shown) ∈ shownFrom offset lines) :
    ∃ above below : Reading, [Stretch.blank '\n'].intercalate lines = above ++ (shown ++ below) ∧
      start = offset + above.text.byteSize := by
  induction lines generalizing offset with
  | nil => contradiction
  | cons line rest ih =>
    rcases List.mem_cons.1 h with hfirst | hlater
    · obtain ⟨rfl, rfl⟩ := Prod.mk.inj hfirst
      obtain ⟨below, hbelow⟩ := exists_intercalate_cons line rest
      obtain ⟨tail, hline, -⟩ := exists_dropReturn line
      refine ⟨[], tail ++ below, ?_, rfl⟩
      rw [hbelow, List.nil_append, ← List.append_assoc, ← hline]
    · cases rest with
      | nil => contradiction
      | cons next rest =>
        obtain ⟨above, below, hlines, hstart⟩ := ih hlater
        have hnewline : (text [.blank '\n']).byteSize = 1 := rfl
        refine ⟨line ++ ([.blank '\n'] ++ above), below, ?_, ?_⟩
        · rw [List.intercalate_cons_cons, hlines]
          simp only [List.append_assoc]
        · rw [hstart, text_append, text_append, Text.byteSize_append, Text.byteSize_append]
          omega

/-- The lines that are shown hold all tokens of the reading. -/
theorem flatMap_tokensFrom_shownFrom (lines : List Reading) (offset : Nat) :
    (shownFrom offset lines).flatMap (fun p => p.2.tokensFrom p.1) =
      tokensFrom offset ([Stretch.blank '\n'].intercalate lines) := by
  induction lines generalizing offset with
  | nil => rfl
  | cons line rest ih =>
    rw [shownFrom, List.flatMap_cons, ih, tokensFrom_dropReturn]
    cases rest with
    | nil => simp [tokensFrom]
    | cons next rest =>
      rw [List.intercalate_cons_cons, List.append_assoc, tokensFrom_append]
      rfl

end Reading

end DeclLang
