import DeclLang.Proofs.PlainReading

/-!
# The comments of both phases

The lexical phase steps over closed literals when it looks for comments and the syntax phase does
not. Everywhere else they look at the same places: a quote that opens no closed literal and a `/*`
that is never closed are passed over one character at a time by both. So they find the same
comments, byte for byte, in a text whose closed literals hold no comment mark, whether the text has
tokens or not.
-/

namespace DeclLang

/-- The text that is stepped over behind a quote ends with a quote of its kind. -/
theorem Quoted.getLast?_closing? {quote : Char} {s w : Text} (h : closing? quote s = some w) :
    w.getLast? = some quote := by
  fun_induction closing? quote s generalizing w with
  | case1 | case2 | case4 => contradiction
  | case3 c rest ih =>
    obtain ⟨u, hu, rfl⟩ := Option.map_eq_some_iff.1 h
    simp [List.getLast?_cons, ih hu]
  | case5 c rest =>
    cases h
    simp_all
  | case6 c rest _ _ _ _ ih =>
    obtain ⟨u, hu, rfl⟩ := Option.map_eq_some_iff.1 h
    simp [List.getLast?_cons, ih hu]

/-- The search for comments passes over a text in which none starts. -/
theorem Comment.rangesFrom_append {w rest : Text} (h : StartsNoneIn rest w) (offset : Nat) :
    rangesFrom offset (w ++ rest) = rangesFrom (offset + w.byteSize) rest := by
  induction w generalizing offset with
  | nil => rfl
  | cons c w ih =>
    obtain ⟨hnone, hrest⟩ := h
    rw [List.cons_append, rangesFrom, hnone, ih hrest, Text.byteSize_cons, Nat.add_assoc]

namespace Segment

/-- A literal that holds no comment mark, or a segment of another kind. -/
def HidesNoMark (segment : Segment) : Prop :=
  segment.kind = .literal → ¬ ['/', '/'] <:+: segment.text ∧ ¬ ['/', '*'] <:+: segment.text

instance (segment : Segment) : Decidable segment.HidesNoMark := inferInstanceAs (Decidable (_ → _))

/-- A segment with a blank in place of a comment. -/
def withoutComment (segment : Segment) : Text :=
  if segment.kind = .comment then [' '] else segment.text

/-- Behind the first segment of a text stands what the search for segments goes on with. -/
theorem text_front_append (c : Char) (rest : Text) :
    (front c rest).text ++ rest.drop ((front c rest).text.length - 1) = c :: rest := by
  obtain ⟨⟨tail, htail⟩, hne⟩ := front_isFront c rest
  obtain ⟨d, w, hw⟩ := List.exists_cons_of_ne_nil hne
  rw [hw, List.cons_append] at htail ⊢
  obtain ⟨rfl, rfl⟩ := List.cons.inj htail
  simp

/-- The first segment of a text is the comment at its front, or no comment starts in it. -/
theorem front_cases {c : Char} {rest tail : Text} (hquiet : (front c rest).HidesNoMark)
    (htail : (front c rest).text ++ tail = c :: rest) :
    (front c rest).kind = .comment ∧ Comment.front? (c :: rest) = some (front c rest).text ∨
      (front c rest).kind ≠ .comment ∧ Comment.StartsNoneIn tail (front c rest).text := by
  generalize hfront : front c rest = segment at *
  unfold front at hfront
  split at hfront
  · rename_i hquote
    have hslash : c ≠ '/' := by rcases hquote with rfl | rfl <;> decide
    split at hfront
    · rename_i w hw
      subst hfront
      obtain ⟨hline, hblock⟩ := hquiet rfl
      refine .inr ⟨by simp, Comment.startsNoneIn_of_not_infix hline hblock ?_ tail⟩
      simp [List.getLast?_cons, Quoted.getLast?_closing? hw, hslash]
    · subst hfront
      exact .inr ⟨by simp, Comment.front?_eq_none (by simpa using hslash), trivial⟩
  · split at hfront
    · rename_i comment hcomment
      subst hfront
      exact .inl ⟨rfl, hcomment⟩
    · rename_i hnone
      have hchar : segment.kind ≠ .comment ∧ segment.text = [c] := by
        split at hfront <;> simp [← hfront]
      obtain ⟨hkind, htext⟩ := hchar
      obtain rfl : tail = rest := by simpa [htext] using htail
      exact .inr ⟨hkind, by rw [htext]; exact ⟨hnone, trivial⟩⟩

/-- The ranges of segments in two parts are those of the parts. -/
theorem rangesFrom_append (kind : Kind) (offset : Nat) (segments later : List Segment) :
    rangesFrom kind offset (segments ++ later) =
      rangesFrom kind offset segments ++
        rangesFrom kind (offset + Text.byteSize (segments.flatMap text)) later := by
  induction segments generalizing offset with
  | nil => rfl
  | cons segment segments ih =>
    rw [List.cons_append, rangesFrom, ih, rangesFrom, List.flatMap_cons, Text.byteSize_append,
      Nat.add_assoc]
    split <;> rfl

/-- Both phases find the comments of a text at the same places. -/
theorem rangesFrom_split {source : Text} (h : ∀ segment ∈ split source, segment.HidesNoMark)
    (offset : Nat) :
    Comment.rangesFrom offset source = rangesFrom .comment offset (split source) := by
  fun_induction split source generalizing offset with
  | case1 => rw [Comment.rangesFrom, rangesFrom]
  | case2 c rest segment ih =>
    obtain ⟨hfirst, hlater⟩ := List.forall_mem_cons.1 h
    have htail := text_front_append c rest
    rw [rangesFrom, ← ih hlater]
    rcases front_cases hfirst htail with ⟨hkind, hcomment⟩ | ⟨hkind, hnone⟩
    · rw [if_pos hkind, Comment.rangesFrom, hcomment]
    · rw [if_neg hkind, ← htail, Comment.rangesFrom_append hnone]

/-- Stripping puts a blank in place of every comment that the lexical phase finds. -/
theorem strip_eq_flatMap {source : Text} (h : ∀ segment ∈ split source, segment.HidesNoMark) :
    Comment.strip source = (split source).flatMap withoutComment := by
  fun_induction split source with
  | case1 => rw [Comment.strip, List.flatMap_nil]
  | case2 c rest segment ih =>
    obtain ⟨hfirst, hlater⟩ := List.forall_mem_cons.1 h
    have htail := text_front_append c rest
    rw [List.flatMap_cons, ← ih hlater, withoutComment]
    rcases front_cases hfirst htail with ⟨hkind, hcomment⟩ | ⟨hkind, hnone⟩
    · rw [if_pos hkind, Comment.strip, hcomment]
      rfl
    · rw [if_neg hkind, ← htail, Comment.strip_append hnone]

/-- A stretch of segments starts where it is said to start. -/
theorem le_of_mem_rangesFrom {kind : Kind} {offset : Nat} {segments : List Segment}
    {range : Nat × Nat} (h : range ∈ rangesFrom kind offset segments) : offset ≤ range.1 := by
  induction segments generalizing offset with
  | nil => contradiction
  | cons segment segments ih =>
    rw [rangesFrom] at h
    split at h
    · rcases List.mem_cons.1 h with rfl | hlater
      · exact Nat.le_refl _
      · exact (Nat.le_add_right _ _).trans (ih hlater)
    · exact (Nat.le_add_right _ _).trans (ih h)

/-- The bytes of a comment are marked. -/
theorem getElem?_marks_of_mem_rangesFrom {offset : Nat} {segments : List Segment}
    {range : Nat × Nat} (h : range ∈ rangesFrom .comment offset segments) {i : Nat}
    (hstart : range.1 ≤ offset + i) (hstop : offset + i < range.2) :
    (segments.flatMap fun y => List.replicate (Text.byteSize y.text) y.isTrivia)[i]? =
      some true := by
  induction segments generalizing offset i with
  | nil => contradiction
  | cons segment segments ih =>
    have hlater (hmem : range ∈ rangesFrom .comment (offset + segment.text.byteSize) segments) :
        ((segment :: segments).flatMap
          fun y => List.replicate (Text.byteSize y.text) y.isTrivia)[i]? = some true := by
      have hbehind := le_of_mem_rangesFrom hmem
      have hoffset : offset + i =
          offset + segment.text.byteSize + (i - segment.text.byteSize) := by
        omega
      rw [hoffset] at hstart hstop
      rw [List.flatMap_cons, List.getElem?_append_right (by rw [List.length_replicate]; omega),
        List.length_replicate]
      exact ih hmem hstart hstop
    rw [rangesFrom] at h
    split at h
    · rename_i hkind
      rcases List.mem_cons.1 h with rfl | hmem
      · have hin : i < segment.text.byteSize := by omega
        rw [List.flatMap_cons, List.getElem?_append_left (by simpa using hin),
          List.getElem?_replicate, if_pos hin, isTrivia, hkind]
      · exact hlater hmem
    · exact hlater h

end Segment

/-- Both phases see the same comments. In a source whose closed literals hold no comment mark the
comments that the syntax phase finds have the byte ranges of those that the lexical phase finds and
marks, and what the syntax phase goes on with is the source with a blank in place of each one. -/
theorem comment_ranges_eq_segments {source : Text}
    (h : ∀ segment ∈ Segment.split source, segment.HidesNoMark) :
    Comment.ranges source = Segment.rangesFrom .comment 0 (Segment.split source) ∧
      (∀ range ∈ Comment.ranges source, ∀ i, range.1 ≤ i → i < range.2 →
        (Segment.triviaBytes source)[i]? = some true) ∧
      Comment.strip source = (Segment.split source).flatMap Segment.withoutComment := by
  have hranges : Comment.ranges source = Segment.rangesFrom .comment 0 (Segment.split source) :=
    Segment.rangesFrom_split h 0
  refine ⟨hranges, fun range hrange i hstart hstop => ?_, Segment.strip_eq_flatMap h⟩
  rw [hranges] at hrange
  exact Segment.getElem?_marks_of_mem_rangesFrom hrange (by omega) (by omega)

/-- A literal goes on behind a backslash at the end of the line, and neither a quote that is not
closed nor a comment that is not hides anything from either phase. -/
theorem comment_ranges_beside_open_quote :
    (∀ segment ∈ Segment.split "\"\\\n'/\"//*\n'/*é*//*".toList, segment.HidesNoMark) ∧
      Comment.ranges "\"\\\n'/\"//*\n'/*é*//*".toList = [(6, 9), (11, 17)] := by
  have h : ∀ segment ∈ Segment.split "\"\\\n'/\"//*\n'/*é*//*".toList, segment.HidesNoMark := by
    decide +kernel
  refine ⟨h, ?_⟩
  rw [(comment_ranges_eq_segments h).1]
  decide +kernel

end DeclLang
