import DeclLang.Proofs.SinglePass

/-!
# Tokens and gaps tile the source

The tokens of a source lie in it one behind the other, and every gap beside or between them consists
of blanks and comments. The bytes marked as trivia are exactly those of the gaps, so every byte
is accounted for once.
-/

namespace DeclLang

namespace Text

/-- The end of a first part is a boundary. -/
theorem isBoundary_append (a b : Text) : isBoundary (a ++ b) (byteSize a) = true := by
  rw [isBoundary, takeBytes_append, beq_self_eq_true]

/-- What is left at the end of a first part is the second. -/
theorem dropBytes_append (a b : Text) : dropBytes (a ++ b) (byteSize a) = b := by
  have hparts := takeBytes_append_dropBytes (a ++ b) (byteSize a)
  rw [takeBytes_append] at hparts
  exact List.append_cancel_left hparts

/-- The slice between the ends of a first and of a second part is the second. -/
theorem slice?_append (a w b : Text) :
    slice? (a ++ (w ++ b)) (byteSize a) (byteSize a + byteSize w) = some w := by
  have hstop : isBoundary (a ++ (w ++ b)) (byteSize a + byteSize w) = true := by
    rw [← List.append_assoc, ← byteSize_append]
    exact isBoundary_append _ _
  rw [slice?, if_pos ⟨Nat.le_add_right _ _, isBoundary_append _ _, hstop⟩, dropBytes_append,
    Nat.add_sub_cancel_left, takeBytes_append]

end Text

namespace Token

/-- Whether a byte belongs to a token. -/
def covers (t : Token) (i : Nat) : Bool := t.start ≤ i && i < t.stop

/-- The byte ranges beside and between tokens, from one offset to another. -/
def gapsFrom (offset stop : Nat) : List Token → List (Nat × Nat)
  | [] => [(offset, stop)]
  | t :: tokens => (offset, t.start) :: gapsFrom t.stop stop tokens

/-- A text in front of a rest that consists of blanks, of line comments that reach a newline or the
end, and of block comments that stop with the first closing mark. -/
inductive IsGap (rest : Text) : Text → Prop
  | nil : IsGap rest []
  | blank {c : Char} {w : Text} : Text.isBlank c → IsGap rest w → IsGap rest (c :: w)
  | line {body w : Text} : '\n' ∉ body → (∀ c ∈ (w ++ rest).head?, c = '\n') → IsGap rest w →
      IsGap rest ('/' :: '/' :: body ++ w)
  | block {body w : Text} : ¬ ['*', '/'] <:+: body ++ ['*'] → IsGap rest w →
      IsGap rest ('/' :: '*' :: (body ++ ['*', '/']) ++ w)

/-- Tokens lie one behind the other in a source with nothing but trivia beside them. -/
structure Tile (source : Text) (tokens : List Token) : Prop where
  /-- No token is empty or runs past the end. -/
  span : ∀ t ∈ tokens, t.start < t.stop ∧ t.stop ≤ source.byteSize
  /-- The ends of a token are character boundaries, and the text between them is its lexeme. -/
  slice : ∀ t ∈ tokens, source.slice? t.start t.stop = some t.lexeme
  /-- A token stops before the later ones start. -/
  ordered : tokens.Pairwise fun t u => t.stop ≤ u.start
  /-- A byte is marked as trivia just when it belongs to no token. -/
  marked : ∀ i < source.byteSize,
    (Segment.triviaBytes source)[i]? = some (!tokens.any (·.covers i))
  /-- The text of a gap consists of blanks and comments. -/
  gap : ∀ gap ∈ gapsFrom 0 source.byteSize tokens,
    ∃ w, source.slice? gap.1 gap.2 = some w ∧ IsGap (source.dropBytes gap.2) w

end Token

namespace Reading

/-- A reading before a rest falls into two such readings. -/
theorem isReadBefore_append {r r' : Reading} {rest : Text} :
    IsReadBefore rest (r ++ r') ↔ IsReadBefore (text r' ++ rest) r ∧ IsReadBefore rest r' := by
  induction r with
  | nil => simp [IsReadBefore]
  | cons x r ih => simp [IsReadBefore, ih, and_assoc]

/-- Every token of a reading is one of its stretches, at the offset where the earlier ones end. -/
theorem exists_of_mem_tokensFrom {r : Reading} {offset : Nat} {t : Token}
    (h : t ∈ tokensFrom offset r) :
    ∃ r₁ r₂ : Reading, r = r₁ ++ .token t.kind t.lexeme :: r₂ ∧
      t.start = offset + Text.byteSize (text r₁) ∧ t.stop = t.start + Text.byteSize t.lexeme := by
  induction r generalizing offset with
  | nil => simp [tokensFrom] at h
  | cons x r ih =>
    rcases List.mem_append.1 h with hx | hr
    · cases x with
      | blank c | comment w => simp [Stretch.tokensAt] at hx
      | token kind w =>
        rw [Stretch.tokensAt, List.mem_singleton] at hx
        subst hx
        exact ⟨[], r, rfl, rfl, rfl⟩
    · obtain ⟨r₁, r₂, rfl, hstart, hstop⟩ := ih hr
      refine ⟨x :: r₁, r₂, rfl, ?_, hstop⟩
      rw [hstart, text_cons, Text.byteSize_append, Nat.add_assoc]

/-- No token of a reading starts before it. -/
theorem le_start {r : Reading} {offset : Nat} {t : Token} (h : t ∈ tokensFrom offset r) :
    offset ≤ t.start := by
  obtain ⟨r₁, r₂, -, hstart, -⟩ := exists_of_mem_tokensFrom h
  omega

/-- The tokens of a stretch span it. -/
theorem span_of_mem_tokensAt {x : Stretch} {offset : Nat} {t : Token}
    (h : t ∈ x.tokensAt offset) :
    t.start = offset ∧ t.stop = offset + Text.byteSize x.text ∧ x.isTrivia = false := by
  cases x with
  | blank c | comment w => simp [Stretch.tokensAt] at h
  | token kind w =>
    rw [Stretch.tokensAt, List.mem_singleton] at h
    subst h
    exact ⟨rfl, rfl, rfl⟩

/-- The tokens of a reading stop before the later ones start. -/
theorem pairwise_tokensFrom (r : Reading) (offset : Nat) :
    (tokensFrom offset r).Pairwise fun t u => t.stop ≤ u.start := by
  induction r generalizing offset with
  | nil => exact .nil
  | cons x r ih =>
    refine List.pairwise_append.2 ⟨?_, ih _, fun t ht u hu => ?_⟩
    · cases x <;> simp [Stretch.tokensAt]
    · rw [(span_of_mem_tokensAt ht).2.1]
      exact le_start hu

/-- The marked bytes of a reading are those of its trivia. -/
theorem triviaBytes_text {r : Reading} (hr : r.IsReadBefore []) (offset : Nat) :
    ∀ i < Text.byteSize r.text, (Segment.triviaBytes r.text)[i]? =
      some (!(r.tokensFrom offset).any (·.covers (offset + i))) := by
  induction r generalizing offset with
  | nil => simp
  | cons x r ih =>
    intro i hi
    have hx : x.IsRead (text r) := by simpa using hr.1
    rw [text_cons, Stretch.triviaBytes_text_append hx, tokensFrom, List.any_append]
    rw [text_cons, Text.byteSize_append] at hi
    by_cases hin : i < Text.byteSize x.text
    · have hlater : (tokensFrom (offset + Text.byteSize x.text) r).any
          (·.covers (offset + i)) = false := by
        rw [List.any_eq_false]
        intro t ht
        have := le_start ht
        simp only [Token.covers, Bool.and_eq_true, decide_eq_true_eq]
        omega
      rw [List.getElem?_append_left (by simpa using hin), hlater, Bool.or_false,
        List.getElem?_replicate, if_pos hin]
      cases x with
      | blank c | comment w => rfl
      | token kind w =>
        simpa [Stretch.tokensAt, Stretch.isTrivia, Stretch.text, Token.covers] using hin
    · have hearlier : (x.tokensAt offset).any (·.covers (offset + i)) = false := by
        rw [List.any_eq_false]
        intro t ht
        obtain ⟨-, hstop, -⟩ := span_of_mem_tokensAt ht
        simp only [Token.covers, Bool.and_eq_true, decide_eq_true_eq]
        omega
      have hoffset : offset + i = offset + Text.byteSize x.text + (i - Text.byteSize x.text) := by
        omega
      rw [List.getElem?_append_right (by simpa using hin), List.length_replicate, hearlier,
        Bool.false_or, hoffset]
      exact ih hr.2 _ _ (by omega)

/-- Trivia in front of a rest is a gap. -/
theorem isGap_text {r : Reading} {rest : Text} (hr : r.IsReadBefore rest)
    (htrivia : ∀ x ∈ r, x.isTrivia) : Token.IsGap rest r.text := by
  induction r with
  | nil => exact .nil
  | cons x r ih =>
    obtain ⟨hx, hrest⟩ := hr
    obtain ⟨hxtrivia, hrtrivia⟩ := List.forall_mem_cons.1 htrivia
    have hgap := ih hrest hrtrivia
    cases x with
    | blank c => exact .blank hx hgap
    | comment w =>
      rcases Comment.front?_append_eq_some hx with ⟨body, rfl, hbody, hend⟩ | ⟨body, rfl, hbody⟩
      · exact .line hbody hend hgap
      · exact .block hbody hgap
    | token kind w => contradiction

/-- Trivia between a first part and a rest of the source is a gap there. -/
theorem exists_gap {pre rest source : Text} {trivia : Reading}
    (hsource : source = pre ++ (trivia.text ++ rest)) (hread : trivia.IsReadBefore rest)
    (htrivia : ∀ x ∈ trivia, x.isTrivia) :
    ∃ w, source.slice? pre.byteSize (pre.byteSize + trivia.text.byteSize) = some w ∧
      Token.IsGap (source.dropBytes (pre.byteSize + trivia.text.byteSize)) w := by
  refine ⟨trivia.text, by rw [hsource, Text.slice?_append], ?_⟩
  rw [hsource, ← List.append_assoc, ← Text.byteSize_append, Text.dropBytes_append]
  exact isGap_text hread htrivia

/-- The gaps beside the tokens of a reading, together with the trivia in front of it, hold only
trivia. -/
theorem gap_of_mem_gapsFrom {r : Reading} (hr : r.IsReadBefore []) {source : Text} (pre : Text)
    (trivia : Reading) (hsource : source = pre ++ (trivia.text ++ r.text))
    (hread : trivia.IsReadBefore r.text) (htrivia : ∀ x ∈ trivia, x.isTrivia) :
    ∀ gap ∈ Token.gapsFrom pre.byteSize source.byteSize
        (r.tokensFrom (pre.byteSize + trivia.text.byteSize)),
      ∃ w, source.slice? gap.1 gap.2 = some w ∧ Token.IsGap (source.dropBytes gap.2) w := by
  induction r generalizing pre trivia with
  | nil =>
    intro gap hgap
    have hsize : source.byteSize = pre.byteSize + trivia.text.byteSize := by simp [hsource]
    rw [tokensFrom, Token.gapsFrom, List.mem_singleton] at hgap
    rw [hgap, hsize]
    exact exists_gap hsource hread htrivia
  | cons x r ih =>
    obtain ⟨hx, hrest⟩ := hr
    cases htoken : x.isTrivia with
    | true =>
      have hsource' : source = pre ++ (text (trivia ++ [x]) ++ text r) := by simp [hsource]
      have hread' : IsReadBefore (text r) (trivia ++ [x]) :=
        isReadBefore_append.2 ⟨by simpa using hread, by simpa using hx, trivial⟩
      have hnone : x.tokensAt (pre.byteSize + (text trivia).byteSize) = [] := by
        cases x with
        | blank c | comment w => rfl
        | token kind w => contradiction
      have hlater := ih hrest pre (trivia ++ [x]) hsource' hread'
        (List.forall_mem_append.2 ⟨htrivia, by simpa using htoken⟩)
      rw [tokensFrom, hnone, List.nil_append, Nat.add_assoc]
      simpa using hlater
    | false =>
      cases x with
      | blank c | comment w => contradiction
      | token kind w =>
        intro gap hgap
        rw [tokensFrom, Stretch.tokensAt, List.singleton_append, Token.gapsFrom,
          List.mem_cons] at hgap
        rcases hgap with rfl | hgap
        · exact exists_gap hsource hread htrivia
        · have hsource' : source = (pre ++ text trivia ++ w) ++ (text [] ++ text r) := by
            simp [hsource, Stretch.text]
          apply ih hrest _ [] hsource' trivial (by simp) gap
          simpa [Stretch.text, Nat.add_assoc] using hgap

/-- The tokens of a reading tile its text. -/
theorem tile_tokensFrom {r : Reading} (hr : r.IsReadBefore []) :
    Token.Tile r.text (r.tokensFrom 0) where
  span := by
    intro t ht
    obtain ⟨r₁, r₂, rfl, hstart, hstop⟩ := exists_of_mem_tokensFrom ht
    have hne := (isReadBefore_append.1 hr).2.1.ne_nil
    have := Text.byteSize_pos hne
    simp only [Stretch.text] at this
    simp only [text_append, text_cons, Text.byteSize_append, Stretch.text]
    omega
  slice := by
    intro t ht
    obtain ⟨r₁, r₂, rfl, hstart, hstop⟩ := exists_of_mem_tokensFrom ht
    rw [hstop, hstart, Nat.zero_add, text_append, text_cons]
    exact Text.slice?_append _ _ _
  ordered := pairwise_tokensFrom r 0
  marked := by simpa using triviaBytes_text hr 0
  gap := by simpa using gap_of_mem_gapsFrom hr [] [] rfl trivial (by simp)

end Reading

end DeclLang
