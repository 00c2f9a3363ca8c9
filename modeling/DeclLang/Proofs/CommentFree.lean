import DeclLang.Proofs.Comment
import DeclLang.Tree.Statement

/-!
# Texts without comments

No comment starts anywhere in a text just when it holds no `//`, and no `*/` behind any `/*` in it.
Stripping leaves such a text alone, and whatever it is given it makes such a text: what is left of
two characters side by side stood side by side before, so no mark is put together from the parts
that a comment had kept apart. Hence stripping twice is stripping once, and the syntax phase, which
strips what it is given, cannot tell a text from the stripped one.
-/

namespace DeclLang

/-- Two characters side by side in a text made of two parts are so in one part, unless the second
character starts the second part. -/
theorem Text.pair_infix_append {x y : Char} {u w : Text} (h : [x, y] <:+: u ++ w)
    (hw : w.head? ≠ some y) : [x, y] <:+: u ∨ [x, y] <:+: w := by
  rcases List.infix_append_iff_ne_nil.1 h with hu | hw' | ⟨a, b, ha, hb, hab, -, hfirst⟩
  · exact .inl hu
  · exact .inr hw'
  · obtain ⟨c, a, rfl⟩ := List.exists_cons_of_ne_nil ha
    obtain ⟨d, b, rfl⟩ := List.exists_cons_of_ne_nil hb
    obtain ⟨tail, rfl⟩ := hfirst
    cases a with
    | nil =>
      obtain ⟨rfl, -⟩ : y = d ∧ b = [] := by simpa using (List.cons.inj hab).2
      exact absurd rfl hw
    | cons e a => simp at hab

/-- Two characters side by side in a text made of two parts are so in the second part if the first
character is not in the first part. -/
theorem Text.pair_infix_of_notMem {x y : Char} {u w : Text} (hx : x ∉ u)
    (h : [x, y] <:+: u ++ w) : [x, y] <:+: w := by
  induction u with
  | nil => exact h
  | cons c u ih =>
    obtain ⟨hc, hu⟩ := not_or.1 (mt List.mem_cons.2 hx)
    rcases List.infix_cons_iff.1 h with hfirst | hinside
    · exact absurd (List.cons_prefix_cons.1 hfirst).1 hc
    · exact ih hu hinside

namespace Comment

/-- A block comment is never closed just when there is no closing mark. -/
theorem throughClose?_eq_none_iff {s : Text} : throughClose? s = none ↔ ¬ ['*', '/'] <:+: s := by
  fun_induction throughClose? s with
  | case1 => simp
  | case2 rest => simpa using (List.prefix_append ['*', '/'] rest).isInfix
  | case3 c rest hopen ih =>
    have hfirst : ¬ ['*', '/'] <+: c :: rest := by
      rintro ⟨tail, htail⟩
      obtain ⟨rfl, rfl⟩ := List.cons.inj htail
      exact hopen tail rfl rfl
    rw [Option.map_eq_none_iff, ih, List.infix_cons_iff, not_or, and_iff_right hfirst]

/-- No comment is at the front of a text just when it does not start with `//`, nor with a `/*` that
has a closing mark behind it. -/
theorem front?_eq_none_iff {s : Text} :
    front? s = none ↔
      ¬ ['/', '/'] <+: s ∧ ∀ b, s = '/' :: '*' :: b → ¬ ['*', '/'] <:+: b := by
  unfold front?
  split
  · simp
  · rename_i rest
    simp [throughClose?_eq_none_iff]
  · rename_i hline hblock
    refine iff_of_true rfl ⟨?_, fun b hb => absurd hb (hblock b)⟩
    rintro ⟨tail, rfl⟩
    exact hline tail rfl

/-- No comment starts anywhere in a text. -/
def IsFree (s : Text) : Prop := ∀ t, t <:+ s → front? t = none

instance (s : Text) : Decidable (IsFree s) :=
  decidable_of_iff (∀ t ∈ s.tails, front? t = none) (by simp only [List.mem_tails, IsFree])

/-- The empty text has no comments. -/
theorem isFree_nil : IsFree [] := by
  intro t ht
  rw [List.suffix_nil.1 ht]
  rfl

/-- A text has no comments just when it holds no `//`, and no `*/` behind any `/*` in it. -/
theorem isFree_iff {s : Text} :
    IsFree s ↔
      ¬ ['/', '/'] <:+: s ∧ ∀ a b, s = a ++ '/' :: '*' :: b → ¬ ['*', '/'] <:+: b := by
  simp only [IsFree, front?_eq_none_iff]
  constructor
  · intro h
    refine ⟨fun hline => ?_, fun a b hb => (h _ ⟨a, hb.symm⟩).2 b rfl⟩
    obtain ⟨t, hfirst, hsuffix⟩ := List.infix_iff_prefix_suffix.1 hline
    exact (h t hsuffix).1 hfirst
  · rintro ⟨hline, hblock⟩ t ht
    refine ⟨fun hfirst => hline (List.infix_iff_prefix_suffix.2 ⟨t, hfirst, ht⟩), ?_⟩
    rintro b rfl
    obtain ⟨a, ha⟩ := ht
    exact hblock a b ha.symm

/-- A part of a text without comments has none. -/
theorem IsFree.of_isInfix {s t : Text} (h : IsFree s) (ht : t <:+: s) : IsFree t := by
  obtain ⟨u, v, rfl⟩ := ht
  obtain ⟨hline, hblock⟩ := isFree_iff.1 h
  refine isFree_iff.2 ⟨fun hinside => hline (hinside.trans (List.infix_append u t v)), ?_⟩
  rintro a b rfl hclose
  exact hblock (u ++ a) (b ++ v) (by simp) (hclose.trans List.infix_append_left)

/-- A text has no comments if none is at its front and there are none behind its first character. -/
theorem isFree_cons {c : Char} {s : Text} :
    IsFree (c :: s) ↔ front? (c :: s) = none ∧ IsFree s := by
  simp [IsFree, List.suffix_cons_iff, or_imp, forall_and]

/-- A text without a slash puts no comment in front of another text. -/
theorem isFree_append_of_notMem {u w : Text} (hu : '/' ∉ u) (hw : IsFree w) :
    IsFree (u ++ w) := by
  induction u with
  | nil => exact hw
  | cons c u ih =>
    obtain ⟨hc, hrest⟩ := not_or.1 (mt List.mem_cons.2 hu)
    exact isFree_cons.2 ⟨front?_eq_none (by simpa [eq_comm] using hc), ih hrest⟩

/-- Two texts make no comment if neither does, no mark is put together where they meet, and the
second one does not close what the first one opens. -/
theorem IsFree.append {u w : Text} (hu : IsFree u) (hw : IsFree w)
    (hslash : w.head? ≠ some '/') (hstar : w.head? ≠ some '*')
    (hclose : ['/', '*'] <:+: u → ¬ ['*', '/'] <:+: w) : IsFree (u ++ w) := by
  rw [isFree_iff] at hu hw ⊢
  refine ⟨fun h => (Text.pair_infix_append h hslash).elim hu.1 hw.1, fun a b hab h => ?_⟩
  -- the opening mark is in the second text, or it starts in the first one and ends in either
  rcases List.append_eq_append_iff.1 hab with ⟨t, rfl, hw'⟩ | ⟨t, rfl, hb⟩
  · exact hw.2 t b hw' h
  · match t, hb with
    | [], hb =>
      obtain rfl : w = '/' :: '*' :: b := hb.symm
      exact hslash rfl
    | [_], hb =>
      obtain rfl : w = '*' :: b := (List.cons.inj hb).2.symm
      exact hstar rfl
    | _ :: _ :: t, hb =>
      obtain ⟨rfl, htail⟩ := List.cons.inj hb
      obtain ⟨rfl, rfl⟩ := List.cons.inj htail
      rcases Text.pair_infix_append h hslash with hinside | hinside
      · exact hu.2 a t rfl hinside
      · exact hclose ⟨a, t, by simp⟩ hinside

/-- Stripping leaves a text without comments alone. -/
theorem strip_of_isFree {s : Text} (h : IsFree s) : strip s = s := by
  induction s with
  | nil => rw [strip]
  | cons c s ih =>
    obtain ⟨hfront, hrest⟩ := isFree_cons.1 h
    rw [strip, hfront]
    exact congrArg (c :: ·) (ih hrest)

/-- Where a stripped text starts with no blank, the text itself starts so, and what is behind it is
stripped. -/
theorem exists_cons_of_strip {s t : Text} {c : Char} (h : strip s = c :: t) (hc : c ≠ ' ') :
    ∃ rest, s = c :: rest ∧ strip rest = t := by
  cases s with
  | nil => simp [strip] at h
  | cons d rest =>
    rw [strip] at h
    split at h
    · exact absurd (List.cons.inj h).1.symm hc
    · obtain ⟨rfl, htail⟩ := List.cons.inj h
      exact ⟨rest, rfl, htail⟩

/-- Two characters side by side in a stripped text were so in the text, unless one of them is a
blank. -/
theorem pair_infix_of_strip {x y : Char} (hx : x ≠ ' ') (hy : y ≠ ' ') {s : Text}
    (h : [x, y] <:+: strip s) : [x, y] <:+: s := by
  fun_induction strip s with
  | case1 => exact h
  | case2 c rest comment hfront ih =>
    rcases List.infix_cons_iff.1 h with hfirst | hinside
    · exact absurd (List.cons_prefix_cons.1 hfirst).1 hx
    · exact (ih hinside).trans ((List.drop_suffix _ rest).trans (List.suffix_cons c rest)).isInfix
  | case3 c rest hfront ih =>
    rcases List.infix_cons_iff.1 h with hfirst | hinside
    · obtain ⟨rfl, tail, htail⟩ := List.cons_prefix_cons.1 hfirst
      obtain ⟨tail, rfl, -⟩ := exists_cons_of_strip htail.symm hy
      exact (List.prefix_append [x, y] tail).isInfix
    · exact List.infix_cons (ih hinside)

/-- A character that starts no comment still starts none when the text behind it is stripped. -/
theorem front?_cons_strip {c : Char} {rest : Text} (h : front? (c :: rest) = none) :
    front? (c :: strip rest) = none := by
  rw [front?_eq_none_iff] at h ⊢
  obtain ⟨hline, hblock⟩ := h
  constructor
  · intro hfirst
    obtain ⟨rfl, tail, htail⟩ := List.cons_prefix_cons.1 hfirst
    obtain ⟨tail, rfl, -⟩ := exists_cons_of_strip htail.symm (by decide)
    exact hline (List.prefix_append ['/', '/'] tail)
  · intro b hb
    obtain ⟨rfl, htail⟩ := List.cons.inj hb
    obtain ⟨tail, rfl, rfl⟩ := exists_cons_of_strip htail (by decide)
    exact mt (pair_infix_of_strip (by decide) (by decide)) (hblock tail rfl)

/-- Stripping leaves no comment. -/
theorem isFree_strip (s : Text) : IsFree (strip s) := by
  fun_induction strip s with
  | case1 => exact isFree_nil
  | case2 c rest comment hfront ih => exact isFree_cons.2 ⟨front?_eq_none (by simp), ih⟩
  | case3 c rest hfront ih => exact isFree_cons.2 ⟨front?_cons_strip hfront, ih⟩

/-- Stripping is complete and idempotent. A stripped text holds no `//`, and no `*/` behind any `/*`
in it; it is left alone when it is stripped again, and it has the tree or the syntax error of the
text. -/
theorem strip_leaves_no_comment (s : Text) :
    ¬ ['/', '/'] <:+: strip s ∧
    (∀ a b, strip s = a ++ '/' :: '*' :: b → ¬ ['*', '/'] <:+: b) ∧
    strip (strip s) = strip s ∧
    parse (strip s) = parse s := by
  obtain ⟨hline, hblock⟩ := isFree_iff.1 (isFree_strip s)
  have htwice : strip (strip s) = strip s := strip_of_isFree (isFree_strip s)
  have hsplit : Statement.split (strip s) = Statement.split s := by
    rw [Statement.split, Statement.split, htwice]
  refine ⟨hline, hblock, htwice, ?_⟩
  rw [parse, parse, parseDeclarations, parseDeclarations, hsplit]

end Comment

end DeclLang
