import DeclLang.Comment
import DeclLang.Proofs.Span
import Mathlib.Data.List.Infix

/-!
# The extent of comments

A line comment has no newline in it and stops before the next one or with the text. A block comment
stops with the first closing mark behind its opening, so no closing mark ends earlier in it.
-/

namespace DeclLang

namespace Text

/-- A text that starts as another one does, or with a newline, or not at all. Behind a line comment
it cannot be taken for more of the comment than the other text is. -/
def BreaksLineLike (t s : Text) : Prop := t.head? = s.head? ∨ ∀ c ∈ t.head?, c = '\n'

/-- A text breaks a line like any other when both go on behind the same text. -/
theorem BreaksLineLike.append {s t : Text} (h : t.BreaksLineLike s) (w : Text) :
    (w ++ t).BreaksLineLike (w ++ s) := by
  cases w with
  | nil => exact h
  | cons c w => exact .inl rfl

/-- A text goes on with a newline, if at all, when it breaks a line like one that does. -/
theorem BreaksLineLike.newline {s t : Text} (h : t.BreaksLineLike s)
    (hs : ∀ c ∈ s.head?, c = '\n') : ∀ c ∈ t.head?, c = '\n' := by
  rcases h with heq | hbreak
  · rwa [heq]
  · exact hbreak

end Text

namespace Comment

/-- Without a slash in front there is no comment. -/
theorem front?_eq_none {s : Text} (h : s.head? ≠ some '/') : front? s = none := by
  unfold front?
  split <;> simp_all

/-- A comment starts with a slash. -/
theorem head?_of_front? {s w : Text} (h : front? s = some w) : w.head? = some '/' := by
  unfold front? at h
  split at h
  · cases h
    rfl
  · obtain ⟨u, -, rfl⟩ := Option.map_eq_some_iff.1 h
    rfl
  · contradiction

/-- A block comment goes through the first closing mark. -/
theorem throughClose?_eq_append {s w : Text} (h : throughClose? s = some w) :
    ∃ body, w = body ++ ['*', '/'] ∧ ¬ ['*', '/'] <:+: body ++ ['*'] := by
  fun_induction throughClose? s generalizing w with
  | case1 => contradiction
  | case2 rest =>
    cases h
    exact ⟨[], rfl, fun hinfix => by simpa using hinfix.length_le⟩
  | case3 c rest hopen ih =>
    obtain ⟨u, hu, rfl⟩ := Option.map_eq_some_iff.1 h
    obtain ⟨body, rfl, hbody⟩ := ih hu
    refine ⟨c :: body, rfl, ?_⟩
    rw [List.cons_append, List.infix_cons_iff, not_or]
    refine ⟨?_, hbody⟩
    rintro hprefix
    obtain ⟨rfl, hslash⟩ := List.cons_prefix_cons.1 hprefix
    obtain ⟨tail, htail⟩ := throughClose?_isPrefix hu
    cases body with
    | nil => simp at hslash
    | cons d body =>
      have hd : '/' = d := by simpa using hslash
      exact hopen (body ++ ['*', '/'] ++ tail) rfl (by simp [← htail, ← hd])

/-- The two kinds of comments, and what may follow them. -/
theorem front?_append_eq_some {w s : Text} (h : front? (w ++ s) = some w) :
    (∃ body, w = '/' :: '/' :: body ∧ '\n' ∉ body ∧ ∀ c ∈ s.head?, c = '\n') ∨
      ∃ body, w = '/' :: '*' :: (body ++ ['*', '/']) ∧ ¬ ['*', '/'] <:+: body ++ ['*'] := by
  unfold front? at h
  split at h
  · rename_i rest hrest
    simp only [Option.some.injEq] at h
    subst h
    have hparts := List.takeWhile_append_dropWhile (p := (· ≠ '\n')) (l := rest)
    have hs : s = rest.dropWhile (· ≠ '\n') := by
      have hrest' : rest.takeWhile (· ≠ '\n') ++ s = rest := by simpa using hrest
      exact List.append_cancel_left (hrest'.trans hparts.symm)
    refine .inl ⟨_, rfl, fun hmem => by simpa using List.mem_takeWhile_imp hmem, ?_⟩
    intro c hc
    have := List.head?_dropWhile_not (· ≠ '\n') rest
    rw [← hs, Option.mem_def.1 hc] at this
    simpa using this
  · obtain ⟨u, hu, rfl⟩ := Option.map_eq_some_iff.1 h
    obtain ⟨body, rfl, hbody⟩ := throughClose?_eq_append hu
    exact .inr ⟨body, rfl, hbody⟩
  · contradiction

/-- A closing mark with none before it closes a block comment, whatever follows it. -/
theorem throughClose?_of_notInfix {body : Text} (h : ¬ ['*', '/'] <:+: body) (rest : Text) :
    throughClose? (body ++ '*' :: '/' :: rest) = some (body ++ ['*', '/']) := by
  induction body with
  | nil => rfl
  | cons c body ih =>
    obtain ⟨hfirst, hinside⟩ := not_or.1 (mt List.infix_cons_iff.2 h)
    have hopen : ∀ tail, c = '*' → body ++ '*' :: '/' :: rest = '/' :: tail → False := by
      intro tail hc htail
      cases body with
      | nil => simp at htail
      | cons d body =>
        obtain rfl : d = '/' := (List.cons.inj htail).1
        exact hfirst ⟨body, by rw [hc]; rfl⟩
    rw [List.cons_append, throughClose?.eq_3 _ _ hopen, ih hinside]
    rfl

/-- A line comment goes on until the text breaks the line. -/
theorem front?_line {body t : Text} (hbody : '\n' ∉ body) (ht : ∀ c ∈ t.head?, c = '\n') :
    front? ('/' :: '/' :: body ++ t) = some ('/' :: '/' :: body) := by
  have hline : (body ++ t).takeWhile (· ≠ '\n') = body := by
    apply Text.takeWhile_append_eq
    · intro c hc
      simpa using ne_of_mem_of_not_mem hc hbody
    · intro c hc
      simpa using ht c hc
  exact congrArg (fun line => some ('/' :: '/' :: line)) hline

/-- A block comment goes on until its first closing mark. -/
theorem front?_block {body : Text} (hbody : ¬ ['*', '/'] <:+: body) (t : Text) :
    front? ('/' :: '*' :: (body ++ ['*', '/']) ++ t) =
      some ('/' :: '*' :: (body ++ ['*', '/'])) := by
  simpa [front?] using throughClose?_of_notInfix hbody t

/-- A comment is found again when the text behind it changes to one that breaks a line like it. -/
theorem front?_of_breaksLineLike {w s t : Text} (h : front? (w ++ s) = some w)
    (ht : t.BreaksLineLike s) : front? (w ++ t) = some w := by
  rcases front?_append_eq_some h with ⟨body, rfl, hbody, hs⟩ | ⟨body, rfl, hbody⟩
  · exact front?_line hbody (ht.newline hs)
  · exact front?_block (fun hclose => hbody (hclose.trans List.infix_append_left)) t

end Comment

end DeclLang
