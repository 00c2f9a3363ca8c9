import Mathlib.Data.List.TakeWhile

/-!
# Pieces between separators

How cutting a list at its separators goes together with a map over the list, and with properties of
the list that its parts have too.
-/

namespace DeclLang

variable {α β : Type}

/-- Elements that are no separators stay in front of the first piece. -/
theorem splitOnP_append_of_forall {q : β → Bool} {w : List β} (hw : ∀ b ∈ w, q b = false)
    (l : List β) : (w ++ l).splitOnP q = (l.splitOnP q).modifyHead (w ++ ·) := by
  induction w with
  | nil => cases hpieces : l.splitOnP q <;> simp [hpieces]
  | cons b w ih =>
    obtain ⟨hb, hrest⟩ := List.forall_mem_cons.1 hw
    rw [List.cons_append, List.splitOnP_cons_eq_if_modifyHead, hb, if_neg (by decide), ih hrest]
    cases l.splitOnP q <;> rfl

/-- Splitting commutes with a map that turns separators, and nothing else, into separators. -/
theorem splitOnP_flatMap {p : α → Bool} {q : β → Bool} {f : α → List β} {l : List α}
    (hsep : ∀ x ∈ l, p x → ∃ b, f x = [b] ∧ q b)
    (hother : ∀ x ∈ l, p x = false → ∀ b ∈ f x, q b = false) :
    (l.flatMap f).splitOnP q = (l.splitOnP p).map (·.flatMap f) := by
  induction l with
  | nil => rfl
  | cons x l ih =>
    obtain ⟨hxsep, hlsep⟩ := List.forall_mem_cons.1 hsep
    obtain ⟨hxother, hlother⟩ := List.forall_mem_cons.1 hother
    rw [List.flatMap_cons, List.splitOnP_cons_eq_if_modifyHead]
    cases hx : p x with
    | true =>
      obtain ⟨b, hb, hq⟩ := hxsep hx
      rw [hb, List.singleton_append, List.splitOnP_cons_eq_if_modifyHead, hq, if_pos rfl,
        if_pos rfl, ih hlsep hlother]
      rfl
    | false =>
      rw [splitOnP_append_of_forall (hxother hx), ih hlsep hlother, if_neg (by decide)]
      cases l.splitOnP p <;> rfl

/-- A property that passes to the parts of a list beside a separator holds of all pieces. -/
theorem forall_mem_splitOnP {p : α → Bool} {P : List α → Prop}
    (hcut : ∀ first sep rest, P (first ++ sep :: rest) → P first ∧ P rest) {l : List α} (h : P l) :
    ∀ piece ∈ l.splitOnP p, P piece := by
  induction hlength : l.length using Nat.strong_induction_on generalizing l with
  | _ n ih =>
    have hparts := List.takeWhile_append_dropWhile (p := (!p ·)) (l := l)
    have hfirst : ∀ x ∈ l.takeWhile (!p ·), p x = false := fun x hx => by
      simpa using List.mem_takeWhile_imp hx
    cases hrest : l.dropWhile (!p ·) with
    | nil =>
      rw [hrest, List.append_nil] at hparts
      rw [hparts] at hfirst
      rw [List.splitOnP_eq_singleton hfirst]
      simpa using h
    | cons sep rest =>
      have hsep : p sep := by
        have := List.head?_dropWhile_not (!p ·) l
        simpa [hrest] using this
      rw [hrest] at hparts
      rw [← hparts] at h hlength
      have hshorter : rest.length < n := by
        rw [← hlength, List.length_append, List.length_cons]
        omega
      obtain ⟨hP, hPrest⟩ := hcut _ _ _ h
      rw [← hparts, List.splitOnP_append_cons_of_forall_mem hfirst sep hsep]
      exact List.forall_mem_cons.2 ⟨hP, ih rest.length hshorter hPrest rfl⟩

end DeclLang
