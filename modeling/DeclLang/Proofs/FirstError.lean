import DeclLang.Finding
import Mathlib.Data.List.Nodup

/-!
# The first error of the semantic phase

The names that are taken at a declaration are those of the declarations before it, as long as these
have known types. So the findings on a list of declarations hold no error just when no name repeats
and every literal fits, and otherwise the first error is about the first declaration where this
fails: its name is taken, or else its literal does not fit.
-/

namespace DeclLang

namespace Finding

variable {findings : List Finding} {finding : Finding}

/-- A finding is an error, and no finding before it is one. -/
def IsFirstError (findings : List Finding) (finding : Finding) : Prop :=
  ∃ before later, findings = before ++ finding :: later ∧ (∀ f ∈ before, f.isError = false) ∧
    finding.isError

/-- The first error is found if there is one. -/
theorem firstError?_eq_some_iff :
    firstError? findings = some finding ↔ IsFirstError findings finding := by
  rw [firstError?, List.find?_eq_some_iff_append]
  simp only [Bool.not_eq_eq_eq_not, Bool.not_true]
  constructor
  · rintro ⟨herror, before, later, heq, hbefore⟩
    exact ⟨before, later, heq, hbefore, herror⟩
  · rintro ⟨before, later, heq, hbefore, herror⟩
    exact ⟨herror, before, later, heq, hbefore⟩

/-- The first error of two lists of findings is that of the first list, if it has any. -/
theorem firstError?_append (findings later : List Finding) :
    firstError? (findings ++ later) = (firstError? findings).or (firstError? later) :=
  List.find?_append

end Finding

namespace Declaration

variable {taken : List Text} {d : Declaration} {type : PrimitiveType} {finding : Finding}

/-- The declared type is known, and it takes the initial value if that is a literal. -/
def Fits (d : Declaration) : Prop :=
  ∃ type, PrimitiveType.ofName? d.typeName = some type ∧
    ∀ value, Literal.infer d.expression = some value → type.accepts value

/-- The type of a declaration that fits is known. -/
theorem Fits.known (h : d.Fits) : ∃ type, PrimitiveType.ofName? d.typeName = some type :=
  h.imp fun _ hfits => hfits.1

/-- What is wrong with a declaration when the given names are taken: its own name is among them, or
else its literal does not fit its type. -/
inductive Fault (taken : List Text) (d : Declaration) : Finding → Prop
  | repeated : d.identifier ∈ taken → Fault taken d (.alreadyDeclared d.identifier)
  | misfit {type value : PrimitiveType} : d.identifier ∉ taken →
      PrimitiveType.ofName? d.typeName = some type → Literal.infer d.expression = some value →
      type.accepts value = false →
      Fault taken d (.mismatch value (Text.trim d.expression) d.identifier type)

/-- What is wrong with a declaration depends on which names are taken, not on their order. -/
theorem Fault.of_mem_iff {names : List Text} (h : d.Fault taken finding)
    (hnames : ∀ name, name ∈ taken ↔ name ∈ names) : d.Fault names finding := by
  cases h with
  | repeated hmem => exact .repeated ((hnames _).1 hmem)
  | misfit hfree htype hvalue hrefused =>
    exact .misfit (mt (hnames _).2 hfree) htype hvalue hrefused

/-- A literal that its type does not take is a misfit. -/
theorem mismatch?_eq_some_iff : d.mismatch? type = some finding ↔
    ∃ value, Literal.infer d.expression = some value ∧ type.accepts value = false ∧
      .mismatch value (Text.trim d.expression) d.identifier type = finding := by
  unfold mismatch?
  cases Literal.infer d.expression with
  | none => simp
  | some value => cases h : type.accepts value <;> simp [h]

/-- There is no misfit if the type takes the literal, or if there is none. -/
theorem mismatch?_eq_none_iff : d.mismatch? type = none ↔
    ∀ value, Literal.infer d.expression = some value → type.accepts value := by
  unfold mismatch?
  cases Literal.infer d.expression with
  | none => simp
  | some value => cases h : type.accepts value <;> simp [h]

/-- The error about a declaration of a known type is that its name is taken, or else its misfit. -/
theorem firstError?_findings (h : PrimitiveType.ofName? d.typeName = some type) :
    Finding.firstError? (d.findings taken) =
      if d.identifier ∈ taken then some (.alreadyDeclared d.identifier) else d.mismatch? type := by
  simp only [findings, h]
  split
  · rfl
  · cases hmismatch : d.mismatch? type with
    | none => rfl
    | some finding =>
      obtain ⟨value, -, -, rfl⟩ := mismatch?_eq_some_iff.1 hmismatch
      rfl

/-- Nothing is wrong with a declaration just when its name is free and its literal fits. -/
theorem firstError?_findings_eq_none_iff :
    Finding.firstError? (d.findings taken) = none ↔ d.identifier ∉ taken ∧ d.Fits := by
  cases htype : PrimitiveType.ofName? d.typeName with
  | none => simp [findings, Fits, htype, Finding.firstError?, Finding.isError, Finding.level]
  | some type =>
    rw [firstError?_findings htype, Fits, htype]
    split
    · simp [*]
    · simp [*, mismatch?_eq_none_iff]

/-- The error about a declaration of a known type says what is wrong with it. -/
theorem fault_of_firstError? (htype : PrimitiveType.ofName? d.typeName = some type)
    (h : Finding.firstError? (d.findings taken) = some finding) : d.Fault taken finding := by
  rw [firstError?_findings htype] at h
  split at h
  · cases h
    exact .repeated ‹_›
  · obtain ⟨value, hvalue, hrefused, rfl⟩ := mismatch?_eq_some_iff.1 h
    exact .misfit ‹_› htype hvalue hrefused

/-- A declaration of a known type takes its name. -/
theorem takeName_eq (h : PrimitiveType.ofName? d.typeName = some type) :
    d.takeName taken = d.identifier :: taken := by
  simp [takeName, h]

end Declaration

/-- The findings on declarations hold no error just when no name repeats or is taken before, and
every literal fits. -/
theorem firstError?_checkFrom_eq_none_iff {taken : List Text} {ds : List Declaration} :
    Finding.firstError? (checkFrom taken ds) = none ↔
      (∀ d ∈ ds, d.identifier ∉ taken) ∧ (ds.map (·.identifier)).Nodup ∧ ∀ d ∈ ds, d.Fits := by
  induction ds generalizing taken with
  | nil => simp [checkFrom, Finding.firstError?]
  | cons d ds ih =>
    rw [checkFrom, Finding.firstError?_append, Option.or_eq_none_iff,
      Declaration.firstError?_findings_eq_none_iff, ih, List.map_cons, List.nodup_cons,
      List.forall_mem_cons, List.forall_mem_cons]
    constructor
    · rintro ⟨⟨hfree, hfits⟩, hrest, hnodup, hall⟩
      obtain ⟨type, htype⟩ := hfits.known
      simp only [Declaration.takeName_eq htype, List.mem_cons, not_or] at hrest
      refine ⟨⟨hfree, fun e he => (hrest e he).2⟩, ⟨?_, hnodup⟩, hfits, hall⟩
      rintro hmem
      obtain ⟨e, he, heq⟩ := List.mem_map.1 hmem
      exact (hrest e he).1 heq
    · rintro ⟨⟨hfree, hrest⟩, ⟨hnew, hnodup⟩, hfits, hall⟩
      obtain ⟨type, htype⟩ := hfits.known
      refine ⟨⟨hfree, hfits⟩, fun e he => ?_, hnodup, hall⟩
      rw [Declaration.takeName_eq htype, List.mem_cons, not_or]
      exact ⟨fun heq => hnew (List.mem_map.2 ⟨e, he, heq⟩), hrest e he⟩

/-- The first error about declarations of known types says what is wrong with the first of them
that has a fault. -/
theorem exists_fault_of_checkFrom {taken : List Text} {ds : List Declaration} {finding : Finding}
    (hknown : ∀ d ∈ ds, ∃ type, PrimitiveType.ofName? d.typeName = some type)
    (h : Finding.firstError? (checkFrom taken ds) = some finding) :
    ∃ before d later, ds = before ++ d :: later ∧
      Finding.firstError? (checkFrom taken before) = none ∧
        d.Fault (before.map (·.identifier) ++ taken) finding := by
  induction ds generalizing taken with
  | nil => contradiction
  | cons d ds ih =>
    obtain ⟨⟨type, htype⟩, hrest⟩ := List.forall_mem_cons.1 hknown
    rw [checkFrom, Finding.firstError?_append] at h
    cases hfirst : Finding.firstError? (d.findings taken) with
    | some first =>
      rw [hfirst, Option.some_or, Option.some.injEq] at h
      exact ⟨[], d, ds, rfl, rfl, h ▸ Declaration.fault_of_firstError? htype hfirst⟩
    | none =>
      rw [hfirst, Option.none_or, Declaration.takeName_eq htype] at h
      obtain ⟨before, e, later, rfl, hbefore, hfault⟩ := ih hrest h
      -- the walk puts the name of `d` behind those of `before`, the list of all names in front
      refine ⟨d :: before, e, later, rfl, ?_, hfault.of_mem_iff fun name => ?_⟩
      · rw [checkFrom, Finding.firstError?_append, hfirst, Option.none_or,
          Declaration.takeName_eq htype, hbefore]
      · simp only [List.mem_append, List.mem_cons, List.map_cons]
        exact or_left_comm.trans or_assoc.symm

/-- The semantic phase always says something. -/
theorem check_ne_nil (tree : Tree) : check tree ≠ [] := by
  unfold check
  split
  · exact List.cons_ne_nil _ _
  · assumption

/-- What is said of a tree without declarations is no error. -/
theorem firstError?_check (tree : Tree) :
    Finding.firstError? (check tree) = Finding.firstError? (checkFrom [] tree.declarations) := by
  unfold check
  split
  · rename_i hnone
    rw [hnone]
    rfl
  · rfl

end DeclLang
