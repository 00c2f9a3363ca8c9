import DeclLang.Text.Basic

/-!
# Comments

A comment is `//` up to the next newline or the end of the text, or `/*` through the first `*/`
after it; a `/*` that is never closed is no comment. Read without regard to literals, the comments
of a text are found from left to right, each search going on behind the last one.

`strip` puts one space for every comment and `ranges` gives their byte ranges.
-/

namespace DeclLang.Comment

/-- The text through the first closing mark of a block comment. -/
def throughClose? : Text → Option Text
  | [] => none
  | '*' :: '/' :: _ => some ['*', '/']
  | c :: rest => (throughClose? rest).map (c :: ·)

/-- The comment at the front of a text. -/
def front? : Text → Option Text
  | '/' :: '/' :: rest => some ('/' :: '/' :: rest.takeWhile (· ≠ '\n'))
  | '/' :: '*' :: rest => (throughClose? rest).map ('/' :: '*' :: ·)
  | _ => none

/-- Closing a block comment keeps the text. -/
theorem throughClose?_isPrefix {s w : Text} (h : throughClose? s = some w) : w <+: s := by
  fun_induction throughClose? s generalizing w with
  | case1 => simp at h
  | case2 rest => cases h; simp
  | case3 c rest _ ih =>
    obtain ⟨u, hu, rfl⟩ := Option.map_eq_some_iff.1 h
    exact (List.prefix_cons_inj c).2 (ih hu)

/-- A comment found at the front of a text is a front of it. -/
theorem front?_isFront {s w : Text} (h : front? s = some w) : Text.IsFront w s := by
  unfold front? at h
  split at h
  · cases h
    exact ⟨by simpa using List.takeWhile_prefix _, by simp⟩
  · obtain ⟨u, hu, rfl⟩ := Option.map_eq_some_iff.1 h
    exact ⟨by simpa using throughClose?_isPrefix hu, by simp⟩
  · simp at h

/-- A text with every comment replaced by one space. -/
def strip : Text → Text
  | [] => []
  | c :: rest =>
    match front? (c :: rest) with
    | some comment => ' ' :: strip (rest.drop (comment.length - 1))
    | none => c :: strip rest
termination_by s => s.length
decreasing_by
  · simp only [List.length_drop, List.length_cons]
    omega
  · simp

/-- The byte ranges of the comments of a text that starts at the given offset. -/
def rangesFrom (offset : Nat) : Text → List (Nat × Nat)
  | [] => []
  | c :: rest =>
    match front? (c :: rest) with
    | some comment =>
      let stop := offset + Text.byteSize comment
      (offset, stop) :: rangesFrom stop (rest.drop (comment.length - 1))
    | none => rangesFrom (offset + c.utf8Size) rest
termination_by s => s.length
decreasing_by
  · simp only [List.length_drop, List.length_cons]
    omega
  · simp

/-- The byte ranges of the comments of a text. -/
def ranges (source : Text) : List (Nat × Nat) := rangesFrom 0 source

end DeclLang.Comment
