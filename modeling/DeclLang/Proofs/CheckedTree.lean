import DeclLang.Proofs.FirstError
import DeclLang.Tree.Outline

/-!
# Findings by what stands before

The semantic phase carries the taken names along as it walks a tree. What it says can be put
without such a walk: the account of a declaration is settled by the declaration itself and by those
before it in the pre-order of the outline, and the findings are these accounts in a row. A
declaration of an unknown type takes no name, and one whose name is taken leaves the name as it is.
-/

namespace DeclLang

/-- Among the nodes of a flattened outline those that stand for declarations, in order. -/
def Outline.declarationNodes (nodes : List (Nat × Outline)) : List Outline :=
  (nodes.map (·.2)).filter (·.tag = .variableDeclaration)

/-- The declaration nodes of two parts of a flattened outline are those of both in turn. -/
theorem Outline.declarationNodes_append (nodes others : List (Nat × Outline)) :
    declarationNodes (nodes ++ others) = declarationNodes nodes ++ declarationNodes others := by
  simp [declarationNodes]

namespace Tree

open Outline

mutual

/-- The declaration nodes below a tree are the outlines of its declarations, at any depth. -/
theorem declarationNodes_flattenFrom (depth : Nat) : (tree : Tree) →
    declarationNodes (tree.outline.flattenFrom depth) =
      tree.declarations.map fun d => (declaration d).outline
  | program children => by
    rw [outline, flattenFrom, declarations, ← declarationNodes_flattenAllFrom (depth + 1) children]
    rfl
  | declaration d => rfl
  | empty => rfl

/-- The declaration nodes below trees are the outlines of their declarations, at any depth. -/
theorem declarationNodes_flattenAllFrom (depth : Nat) : (trees : List Tree) →
    declarationNodes (flattenAllFrom depth (outlines trees)) =
      (declarationsOfAll trees).map fun d => (declaration d).outline
  | [] => rfl
  | child :: rest => by
    rw [outlines, flattenAllFrom, declarationNodes_append, declarationNodes_flattenFrom depth child,
      declarationNodes_flattenAllFrom depth rest, declarationsOfAll, List.map_append]

end

end Tree

namespace Declaration

variable {taken : List Text} {before : List Declaration} {d : Declaration} {name : Text}

/-- A name is declared with a primitive type. -/
def Declares (ds : List Declaration) (name : Text) : Prop :=
  ∃ d ∈ ds, d.identifier = name ∧ (PrimitiveType.ofName? d.typeName).isSome

instance (ds : List Declaration) (name : Text) : Decidable (Declares ds name) :=
  inferInstanceAs (Decidable (∃ d ∈ ds, _))

/-- The account of a declaration behind others: an error if its type is not primitive or its name is
declared before with a primitive type, and otherwise its announcement, with an error behind it if
its expression is a literal of a type that does not fit. -/
def account (before : List Declaration) (d : Declaration) : List Finding :=
  match PrimitiveType.ofName? d.typeName with
  | none => [.unknownType d.typeName d.identifier]
  | some type =>
    if Declares before d.identifier then [.alreadyDeclared d.identifier]
    else
      .declared d.identifier type ::
        match Literal.infer d.expression with
        | none => []
        | some value =>
          if type.accepts value then []
          else [.mismatch value (Text.trim d.expression) d.identifier type]

/-- The accounts of declarations in a row, each behind those before it. -/
def accounts (ds : List Declaration) : List Finding :=
  if ds = [] then [.nothingToReport] else (ds.mapIdx fun i d => d.account (ds.take i)).flatten

/-- The type that a declaration gives to a name, if it declares the name with a primitive type. -/
def typeFor? (name : Text) (d : Declaration) : Option PrimitiveType :=
  if d.identifier = name then PrimitiveType.ofName? d.typeName else none

/-- The primitive type that a name is first declared with. -/
def firstType? (ds : List Declaration) (name : Text) : Option PrimitiveType :=
  ds.findSome? (typeFor? name)

/-- There is something to say about any declaration. -/
theorem findings_ne_nil (taken : List Text) (d : Declaration) : d.findings taken ≠ [] := by
  unfold findings
  split
  · exact List.cons_ne_nil _ _
  · split <;> exact List.cons_ne_nil _ _

/-- What is said about a declaration is its account, if its name is taken just when it is declared
before. -/
theorem findings_eq_account (h : d.identifier ∈ taken ↔ Declares before d.identifier) :
    d.findings taken = d.account before := by
  unfold findings account
  cases PrimitiveType.ofName? d.typeName with
  | none => rfl
  | some type =>
    simp only [h, mismatch?]
    cases Literal.infer d.expression with
    | none => rfl
    | some value => cases h : type.accepts value <;> simp [h]

/-- A declaration gives a type to its own name only, and only if its type is primitive. -/
theorem isSome_typeFor? : (d.typeFor? name).isSome ↔
    d.identifier = name ∧ (PrimitiveType.ofName? d.typeName).isSome := by
  unfold typeFor?
  split <;> simp [*]

/-- A declaration takes the name that it gives a type to, and no other. -/
theorem mem_takeName_iff :
    name ∈ d.takeName taken ↔ (d.typeFor? name).isSome ∨ name ∈ taken := by
  rw [isSome_typeFor?, takeName]
  split <;> simp [*, eq_comm]

/-- One more declaration declares the name that it gives a type to, and no other. -/
theorem declares_append_singleton_iff :
    Declares (before ++ [d]) name ↔ (d.typeFor? name).isSome ∨ Declares before name := by
  rw [isSome_typeFor?]
  simp only [Declares, List.mem_append, List.mem_singleton, or_and_right, exists_or,
    exists_eq_left, or_comm]

/-- The first type of a name is the one from the first declaration, if that gives any. -/
theorem firstType?_cons (d : Declaration) (ds : List Declaration) (name : Text) :
    firstType? (d :: ds) name = (d.typeFor? name).or (firstType? ds name) := by
  rw [firstType?, List.findSome?_cons]
  cases d.typeFor? name <;> rfl

end Declaration

open Declaration

/-- The walk gives the accounts in a row, if the names taken so far are those declared so far. -/
theorem checkFrom_eq_flatten {taken : List Text} {before ds : List Declaration}
    (h : ∀ name, name ∈ taken ↔ Declares before name) :
    checkFrom taken ds = (ds.mapIdx fun i d => d.account (before ++ ds.take i)).flatten := by
  induction ds generalizing taken before with
  | nil => rfl
  | cons d ds ih =>
    -- the rest is walked behind `before` and `d`, with the name of `d` among those taken
    have hnext : ∀ name, name ∈ d.takeName taken ↔ Declares (before ++ [d]) name := by
      intro name
      rw [mem_takeName_iff, declares_append_singleton_iff, h]
    rw [checkFrom, findings_eq_account (h _), ih hnext, List.mapIdx_cons, List.flatten_cons]
    simp

/-- Something is said about declarations, unless there are none. -/
theorem checkFrom_eq_nil_iff {taken : List Text} {ds : List Declaration} :
    checkFrom taken ds = [] ↔ ds = [] := by
  cases ds with
  | nil => simp [checkFrom]
  | cons d ds => simp [checkFrom, findings_ne_nil]

/-- The findings on a tree are the accounts of its declarations. -/
theorem check_eq_accounts (tree : Tree) : check tree = accounts tree.declarations := by
  have hstart : ∀ name, name ∈ ([] : List Text) ↔ Declares [] name := by simp [Declares]
  have hwalk : checkFrom [] tree.declarations =
      (tree.declarations.mapIdx fun i d => d.account (tree.declarations.take i)).flatten :=
    checkFrom_eq_flatten hstart
  rw [check, accounts, ← hwalk]
  cases hfindings : checkFrom [] tree.declarations with
  | nil => rw [if_pos (checkFrom_eq_nil_iff.1 hfindings)]
  | cons finding later =>
    have hsome : tree.declarations ≠ [] := fun hds => by simp [hds, checkFrom] at hfindings
    rw [if_neg hsome]

/-- The types that findings announce for a name. -/
def Finding.announced (name : Text) (findings : List Finding) : List PrimitiveType :=
  findings.filterMap fun
    | .declared identifier type => if identifier = name then some type else none
    | _ => none

namespace Finding

/-- Two lists of findings announce what each of them does. -/
theorem announced_append (name : Text) (findings later : List Finding) :
    announced name (findings ++ later) = announced name findings ++ announced name later :=
  List.filterMap_append

/-- A misfit announces nothing. -/
theorem announced_mismatch? (name : Text) (type : PrimitiveType) (d : Declaration) :
    announced name (d.mismatch? type).toList = [] := by
  cases hmismatch : d.mismatch? type with
  | none => rfl
  | some finding =>
    obtain ⟨value, -, -, rfl⟩ := mismatch?_eq_some_iff.1 hmismatch
    rfl

/-- What is said about a declaration announces its type for its name, if the type is primitive and
the name is free. -/
theorem announced_findings (name : Text) (taken : List Text) (d : Declaration) :
    announced name (d.findings taken) = if name ∈ taken then [] else (d.typeFor? name).toList := by
  unfold findings typeFor?
  cases PrimitiveType.ofName? d.typeName with
  | none => simp [announced]
  | some type =>
    have hdeclared : announced name (.declared d.identifier type :: (d.mismatch? type).toList) =
        (if d.identifier = name then some type else none).toList := by
      rw [← List.singleton_append, announced_append, announced_mismatch?, List.append_nil]
      by_cases hname : d.identifier = name <;> simp [hname, announced]
    simp only [apply_ite (announced name), hdeclared]
    by_cases hname : d.identifier = name
    · rw [hname]
      rfl
    · simp [hname, announced]

/-- The walk announces a name that is not taken yet once, with the type that it is first declared
with, and no other. -/
theorem announced_checkFrom (name : Text) (taken : List Text) (ds : List Declaration) :
    announced name (checkFrom taken ds) =
      if name ∈ taken then [] else (firstType? ds name).toList := by
  induction ds generalizing taken with
  | nil => simp [checkFrom, announced, firstType?]
  | cons d ds ih =>
    rw [checkFrom, announced_append, announced_findings, ih, firstType?_cons]
    by_cases htaken : name ∈ taken
    · simp [mem_takeName_iff, htaken]
    · cases htype : d.typeFor? name <;> simp [mem_takeName_iff, htaken, htype]

end Finding

/-- The findings on a tree are settled by what stands before each declaration. The declarations of
the tree are those of the nodes of its flattened outline, the findings are their accounts in a row,
and a name is announced at most once, with the type that it is first declared with. -/
theorem check_meets_accounts (tree : Tree) :
    Outline.declarationNodes tree.outline.flatten =
        tree.declarations.map (fun d => (Tree.declaration d).outline) ∧
      check tree = accounts tree.declarations ∧
      ∀ name, Finding.announced name (check tree) =
        (firstType? tree.declarations name).toList := by
  refine ⟨Tree.declarationNodes_flattenFrom 0 tree, check_eq_accounts tree, fun name => ?_⟩
  have hwalk : Finding.announced name (checkFrom [] tree.declarations) =
      (firstType? tree.declarations name).toList := by
    rw [Finding.announced_checkFrom, if_neg List.not_mem_nil]
  rw [check, ← hwalk]
  cases checkFrom [] tree.declarations <;> rfl

example :
    check (.program [.declaration ⟨"Byte".toList, ['x'], ['1']⟩,
        .program [.empty, .declaration ⟨"byte".toList, ['x'], "300".toList⟩],
        .declaration ⟨"int".toList, ['x'], ['1']⟩]) =
      [.unknownType "Byte".toList ['x'], .declared ['x'] .byte,
        .mismatch .short "300".toList ['x'] .byte, .alreadyDeclared ['x']] := by
  decide +kernel

end DeclLang
