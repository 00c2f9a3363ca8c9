import Mathlib.Data.List.Forall2

/-!
# Lists worked through up to the first failure

Steps that may fail are taken for the elements of a list in turn. Where it depends on the element
alone whether its step fails, the whole fails just when some step does, and then with the error of
the first element whose step fails, whatever comes behind it.
-/

namespace DeclLang

variable {α β σ ε : Type}

/-- The first element of its kind in a list is the head, or it is the first in the tail and the head
may stand in front of it. -/
theorem exists_first_cons_iff {p q : α → Prop} {a : α} {l : List α} :
    (∃ before x later, a :: l = before ++ x :: later ∧ (∀ y ∈ before, p y) ∧ q x) ↔
      q a ∨ p a ∧ ∃ before x later, l = before ++ x :: later ∧ (∀ y ∈ before, p y) ∧ q x := by
  constructor
  · rintro ⟨before, x, later, heq, hbefore, hx⟩
    cases before with
    | nil =>
      obtain ⟨rfl, rfl⟩ := List.cons.inj heq
      exact .inl hx
    | cons y before =>
      obtain ⟨rfl, rfl⟩ := List.cons.inj heq
      obtain ⟨ha, hrest⟩ := List.forall_mem_cons.1 hbefore
      exact .inr ⟨ha, before, x, later, rfl, hrest, hx⟩
  · rintro (ha | ⟨ha, before, x, later, rfl, hbefore, hx⟩)
    · exact ⟨[], a, l, rfl, by simp, ha⟩
    · exact ⟨a :: before, x, later, rfl, List.forall_mem_cons.2 ⟨ha, hbefore⟩, hx⟩

/-- A fold whose steps fail on account of the elements alone fails at the first such element. -/
theorem foldlM_eq_error_iff {f : σ → α → Except ε σ} {fails : α → ε → Prop}
    (hf : ∀ s a e, f s a = .error e ↔ fails a e) {l : List α} {s : σ} {e : ε} :
    l.foldlM f s = .error e ↔
      ∃ before a later, l = before ++ a :: later ∧ (∀ b ∈ before, ∀ e, ¬ fails b e) ∧
        fails a e := by
  induction l generalizing s with
  | nil => simp [pure, Except.pure]
  | cons a l ih =>
    rw [List.foldlM_cons, exists_first_cons_iff (q := (fails · e)), ← hf s a e]
    cases ha : f s a with
    | error e' =>
      have hfails : ¬ ∀ e, ¬ fails a e := fun h => h e' ((hf s a e').1 ha)
      simp [hfails, bind, Except.bind]
    | ok t =>
      have hfine : ∀ e, ¬ fails a e := fun e h => by simp [(hf s a e).2 h] at ha
      simp only [reduceCtorEq, false_or, hfine, not_false_eq_true, implies_true, true_and]
      exact ih

/-- A fold whose steps fail on account of the elements alone succeeds when no element fails. -/
theorem exists_foldlM_eq_ok_iff {f : σ → α → Except ε σ} {fails : α → ε → Prop}
    (hf : ∀ s a e, f s a = .error e ↔ fails a e) {l : List α} {s : σ} :
    (∃ t, l.foldlM f s = .ok t) ↔ ∀ a ∈ l, ∀ e, ¬ fails a e := by
  induction l generalizing s with
  | nil => simp [pure, Except.pure]
  | cons a l ih =>
    rw [List.foldlM_cons, List.forall_mem_cons]
    cases ha : f s a with
    | error e =>
      have hfails : ¬ ∀ e, ¬ fails a e := fun h => h e ((hf s a e).1 ha)
      simp [hfails, bind, Except.bind]
    | ok t =>
      have hfine : ∀ e, ¬ fails a e := fun e h => by simp [(hf s a e).2 h] at ha
      exact ih.trans (and_iff_right hfine).symm

/-- A map fails with the error of the first element that has no image. -/
theorem mapM_eq_error_iff {f : α → Except ε β} {l : List α} {e : ε} :
    l.mapM f = .error e ↔
      ∃ before a later, l = before ++ a :: later ∧ (∀ b ∈ before, ∃ c, f b = .ok c) ∧
        f a = .error e := by
  have hok (b : α) : (∀ e, ¬ f b = .error e) ↔ ∃ c, f b = .ok c := by
    cases f b <;> simp
  have hstep (s : List β) (a : α) (e : ε) : (· :: s) <$> f a = .error e ↔ f a = .error e := by
    cases f a <;> simp [Functor.map, Except.map]
  rw [List.mapM_eq_reverse_foldlM_cons]
  simp only [← hok, ← foldlM_eq_error_iff hstep (s := [])]
  cases l.foldlM (fun s a => (· :: s) <$> f a) [] <;> simp [Functor.map, Except.map]

/-- A map leads to the images of the elements if each has one. -/
theorem mapM_eq_ok_iff {f : α → Except ε β} {l : List α} {bs : List β} :
    l.mapM f = .ok bs ↔ List.Forall₂ (fun a b => f a = .ok b) l bs := by
  induction l generalizing bs with
  | nil =>
    rw [List.mapM_nil, List.forall₂_nil_left_iff]
    exact ⟨fun h => (Except.ok.inj h).symm, fun h => h ▸ rfl⟩
  | cons a l ih =>
    rw [List.mapM_cons, List.forall₂_cons_left_iff]
    constructor
    · intro h
      cases ha : f a with
      | error e => simp [ha, bind, Except.bind] at h
      | ok b =>
        cases hrest : l.mapM f with
        | error e => simp [ha, hrest, bind, Except.bind] at h
        | ok rest =>
          simp only [ha, hrest, bind, Except.bind, pure, Except.pure, Except.ok.injEq] at h
          exact ⟨b, rest, rfl, ih.1 hrest, h.symm⟩
    · rintro ⟨b, rest, ha, hrest, rfl⟩
      simp [ha, ih.2 hrest, bind, Except.bind, pure, Except.pure]

end DeclLang
