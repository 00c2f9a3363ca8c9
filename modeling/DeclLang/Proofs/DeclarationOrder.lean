import DeclLang.Proofs.CheckedTree
import DeclLang.Proofs.Consistency
import Mathlib.Data.List.Perm.Basic

/-!
# The order of unrelated declarations

What is said about a declaration depends on the names taken before it only in so far as its own name
is among them or not. So two neighbours of different names may change places without a change in
what is said about either of them or about any later declaration. Every rearrangement that keeps the
declarations of each name in their order is made of such changes: the first declaration is moved in
front of those of other names, and the rest is rearranged behind it.

The findings then come in another order, and with them the first error; only whether there is one
stays the same.
-/

namespace DeclLang

namespace Declaration

variable {taken names : List Text} {d e : Declaration} {ds ds' before later : List Declaration}

/-- The same declarations in an order that is the same for the declarations of any one name. -/
structure IsRearrangement (ds ds' : List Declaration) : Prop where
  /-- Every declaration is there as often as before. -/
  perm : ds.Perm ds'
  /-- The declarations of a name come in the same order as before. -/
  order : ∀ name, ds.filter (·.identifier = name) = ds'.filter (·.identifier = name)

/-- Whatever declaration comes first, a rearrangement has only declarations of other names in front
of it, and without it rearranges the others. -/
theorem IsRearrangement.exists_append (h : IsRearrangement (d :: ds) ds') :
    ∃ before later, ds' = before ++ d :: later ∧ (∀ e ∈ before, e.identifier ≠ d.identifier) ∧
      IsRearrangement ds (before ++ later) := by
  have hfirst : ds'.filter (·.identifier = d.identifier) =
      d :: ds.filter (·.identifier = d.identifier) := by
    rw [← h.order, List.filter_cons_of_pos (by simp)]
  obtain ⟨before, later, rfl, hbefore, -, hlater⟩ := List.filter_eq_cons_iff.1 hfirst
  have hother : ∀ e ∈ before, e.identifier ≠ d.identifier := by simpa using hbefore
  refine ⟨before, later, rfl, hother, (h.perm.trans List.perm_middle).cons_inv, fun name => ?_⟩
  have horder := h.order name
  simp only [List.filter_append, List.filter_cons, decide_eq_true_eq] at horder ⊢
  by_cases hname : d.identifier = name
  · have hnone : before.filter (·.identifier = name) = [] := by
      simpa [List.filter_eq_nil_iff, ← hname] using hother
    simpa [hname, hnone] using horder
  · simpa [hname] using horder

/-- What is said about a declaration depends only on whether its own name is taken. -/
theorem findings_congr (h : d.identifier ∈ taken ↔ d.identifier ∈ names) :
    d.findings taken = d.findings names := by
  simp only [findings, h]

/-- The names that are taken after a declaration depend on those taken before as a set. -/
theorem mem_takeName_congr (h : ∀ name, name ∈ taken ↔ name ∈ names) (d : Declaration)
    (name : Text) : name ∈ d.takeName taken ↔ name ∈ d.takeName names := by
  rw [mem_takeName_iff, mem_takeName_iff, h]

/-- A declaration leaves every name but its own as it was. -/
theorem mem_takeName_of_ne (h : d.identifier ≠ e.identifier) :
    e.identifier ∈ d.takeName taken ↔ e.identifier ∈ taken := by
  rw [mem_takeName_iff, isSome_typeFor?]
  simp [h]

/-- Two declarations take the same names in either order. -/
theorem mem_takeName_takeName (d e : Declaration) (name : Text) :
    name ∈ d.takeName (e.takeName taken) ↔ name ∈ e.takeName (d.takeName taken) := by
  simp only [mem_takeName_iff]
  exact or_left_comm

end Declaration

open Declaration

variable {taken names : List Text} {d e : Declaration} {ds ds' before : List Declaration}

/-- The order in which names were taken does not matter to the walk. -/
theorem checkFrom_congr (h : ∀ name, name ∈ taken ↔ name ∈ names) (ds : List Declaration) :
    checkFrom taken ds = checkFrom names ds := by
  induction ds generalizing taken names with
  | nil => rfl
  | cons d ds ih =>
    rw [checkFrom, checkFrom, findings_congr (h _), ih (mem_takeName_congr h d)]

/-- Two neighbours of different names may change places. -/
theorem checkFrom_swap (h : d.identifier ≠ e.identifier) (taken : List Text)
    (ds : List Declaration) :
    (checkFrom taken (d :: e :: ds)).Perm (checkFrom taken (e :: d :: ds)) := by
  have hd : d.findings (e.takeName taken) = d.findings taken :=
    findings_congr (mem_takeName_of_ne h.symm)
  have he : e.findings (d.takeName taken) = e.findings taken :=
    findings_congr (mem_takeName_of_ne h)
  have hrest : checkFrom (e.takeName (d.takeName taken)) ds =
      checkFrom (d.takeName (e.takeName taken)) ds :=
    checkFrom_congr (mem_takeName_takeName e d) ds
  simp only [checkFrom, hd, he, hrest, ← List.append_assoc]
  exact List.perm_append_comm.append_right _

/-- A declaration may move in front of declarations of other names. -/
theorem checkFrom_move (h : ∀ e ∈ before, e.identifier ≠ d.identifier) (taken : List Text)
    (later : List Declaration) :
    (checkFrom taken (before ++ d :: later)).Perm (checkFrom taken (d :: (before ++ later))) := by
  induction before generalizing taken with
  | nil => exact List.Perm.refl _
  | cons e before ih =>
    obtain ⟨he, hrest⟩ := List.forall_mem_cons.1 h
    have hmove : (checkFrom taken (e :: (before ++ d :: later))).Perm
        (checkFrom taken (e :: d :: (before ++ later))) := (ih hrest _).append_left _
    exact hmove.trans (checkFrom_swap he taken _)

/-- The findings on rearranged declarations are the same ones. -/
theorem checkFrom_perm (h : IsRearrangement ds ds') (taken : List Text) :
    (checkFrom taken ds).Perm (checkFrom taken ds') := by
  induction ds generalizing ds' taken with
  | nil => rw [List.nil_perm.1 h.perm]
  | cons d ds ih =>
    obtain ⟨before, later, rfl, hother, hrest⟩ := h.exists_append
    have hbehind : (checkFrom taken (d :: ds)).Perm (checkFrom taken (d :: (before ++ later))) :=
      (ih hrest _).append_left _
    exact hbehind.trans (checkFrom_move hother taken later).symm

/-- The findings on a program with declarations are those of the walk. -/
theorem check_ofDeclarations (h : ds ≠ []) : check (Tree.ofDeclarations ds) = checkFrom [] ds := by
  have hsome : checkFrom [] ds ≠ [] := mt checkFrom_eq_nil_iff.1 h
  rw [check, Tree.declarations_ofDeclarations]
  split
  · contradiction
  · rfl

/-- The findings on the programs of rearranged declarations are the same ones. -/
theorem check_perm (h : IsRearrangement ds ds') :
    (check (Tree.ofDeclarations ds)).Perm (check (Tree.ofDeclarations ds')) := by
  by_cases hds : ds = []
  · subst hds
    rw [List.nil_perm.1 h.perm]
  · have hds' : ds' ≠ [] := fun hnil => hds (List.perm_nil.1 (hnil ▸ h.perm))
    rw [check_ofDeclarations hds, check_ofDeclarations hds']
    exact checkFrom_perm h []

/-- The findings on a program do not depend on the order of unrelated declarations. Where the
declarations of every name keep their order, the program with all declarations in another order has
the same findings, each as often, and the semantic phase passes for both programs or for neither. -/
theorem check_ignores_order_of_names (h : IsRearrangement ds ds') :
    (check (Tree.ofDeclarations ds)).Perm (check (Tree.ofDeclarations ds')) ∧
      (Analysis.verdict (check (Tree.ofDeclarations ds)) = .pass ↔
        Analysis.verdict (check (Tree.ofDeclarations ds')) = .pass) := by
  have hperm := check_perm h
  refine ⟨hperm, ?_⟩
  simp only [Analysis.verdict_eq_pass_iff, Finding.firstError?, List.find?_eq_none, hperm.mem_iff]

/-- A name that is declared twice, a literal that does not fit and an unknown type are found in
either order, and the first error is another one. -/
theorem check_interleaved_names :
    IsRearrangement
      [⟨"int".toList, ['x'], ['1']⟩, ⟨"char".toList, ['x'], ['1']⟩,
        ⟨"byte".toList, ['y'], "300".toList⟩, ⟨"Int".toList, ['y'], ['1']⟩]
      [⟨"byte".toList, ['y'], "300".toList⟩, ⟨"int".toList, ['x'], ['1']⟩,
        ⟨"Int".toList, ['y'], ['1']⟩, ⟨"char".toList, ['x'], ['1']⟩] ∧
    [.declared ['x'] .int, .alreadyDeclared ['x'], .declared ['y'] .byte,
      .mismatch .short "300".toList ['y'] .byte, .unknownType "Int".toList ['y']].Perm
      (check (Tree.ofDeclarations
        [⟨"byte".toList, ['y'], "300".toList⟩, ⟨"int".toList, ['x'], ['1']⟩,
          ⟨"Int".toList, ['y'], ['1']⟩, ⟨"char".toList, ['x'], ['1']⟩])) := by
  have h : IsRearrangement
      [⟨"int".toList, ['x'], ['1']⟩, ⟨"char".toList, ['x'], ['1']⟩,
        ⟨"byte".toList, ['y'], "300".toList⟩, ⟨"Int".toList, ['y'], ['1']⟩]
      [⟨"byte".toList, ['y'], "300".toList⟩, ⟨"int".toList, ['x'], ['1']⟩,
        ⟨"Int".toList, ['y'], ['1']⟩, ⟨"char".toList, ['x'], ['1']⟩] := by
    refine ⟨by decide, fun name => ?_⟩
    by_cases hx : ['x'] = name
    · subst hx
      decide
    · simp [List.filter_cons, hx]
  have hfindings : check (Tree.ofDeclarations
      [⟨"int".toList, ['x'], ['1']⟩, ⟨"char".toList, ['x'], ['1']⟩,
        ⟨"byte".toList, ['y'], "300".toList⟩, ⟨"Int".toList, ['y'], ['1']⟩]) =
      [.declared ['x'] .int, .alreadyDeclared ['x'], .declared ['y'] .byte,
        .mismatch .short "300".toList ['y'] .byte, .unknownType "Int".toList ['y']] := by
    decide +kernel
  exact ⟨h, hfindings ▸ (check_ignores_order_of_names h).1⟩

end DeclLang
