import DeclLang.Viewer.ResultPanes
import Mathlib.Data.List.Forall2

/-!
# Drawn outlines

A node of an outline has an address: the indices of the children on the way to it from the root. In
pre-order the addresses ascend, and the depth of a node is the length of its address.

An outline is drawn with the branches so far handed down from node to node. What is handed to a node
has one cell for each of its proper ancestors below the root, and the cell tells whether that
ancestor is the last child of its parent; the node adds a mark for itself and hands a cell for
itself on. The root is drawn without either. So every row shows in front of its caption which of the
nodes above it are last children.
-/

namespace DeclLang

namespace Outline

/-- The node at an address. -/
def at? : Outline → List Nat → Option Outline
  | o, [] => some o
  | o, i :: rest => o.children[i]?.bind (at? · rest)

/-- Whether the node at an address is the last child of its parent. -/
def isLast (o : Outline) (address : List Nat) : Bool :=
  (o.at? address.dropLast).any fun parent =>
    address.getLast?.any (· + 1 = parent.children.length)

/-- One of the two-character cells of drawn branches. -/
def cell (branches : Text) (j : Nat) : Text := (branches.drop (2 * j)).take 2

/-- A drawn line with its branches blotted out. -/
def Row.indented (row : Row) : Text :=
  List.replicate row.branches.length ' ' ++
    (Line.text (TreePane.row row)).drop row.branches.length

/-- A row draws the node at an address. It shows the caption of the node behind one cell for every
level: the last cell for the node itself, each of the others for an ancestor. -/
structure Draws (o : Outline) (address : List Nat) (n : Outline) (row : Row) : Prop where
  text : Line.text (TreePane.row row) = row.branches ++ n.caption
  length : row.branches.length = 2 * address.length
  mark : address ≠ [] → cell row.branches (address.length - 1) =
    if o.isLast address then ['└', ' '] else ['├', ' ']
  below : ∀ j, j + 1 < address.length → cell row.branches j =
    if o.isLast (address.take (j + 1)) then [' ', ' '] else ['│', ' ']

mutual

/-- The nodes of an outline at the given address in pre-order, with their addresses. -/
def visitFrom (address : List Nat) : Outline → List (List Nat × Outline)
  | node tag label children =>
    (address, node tag label children) :: visitAllFrom address 0 children

/-- The nodes of the children of a node from the given index on in pre-order, with their
addresses. -/
def visitAllFrom (address : List Nat) (i : Nat) : List Outline → List (List Nat × Outline)
  | [] => []
  | child :: rest => visitFrom (address ++ [i]) child ++ visitAllFrom address (i + 1) rest

end

mutual

/-- The depth of a node is the length of its address. -/
theorem flattenFrom_length (address : List Nat) : (o : Outline) →
    flattenFrom address.length o = (visitFrom address o).map fun v => (v.1.length, v.2)
  | node tag label children => by
    rw [flattenFrom, visitFrom, List.map_cons, ← flattenAllFrom_length address 0 children]

/-- The children of a node are one level below it. -/
theorem flattenAllFrom_length (address : List Nat) (i : Nat) : (outlines : List Outline) →
    flattenAllFrom (address.length + 1) outlines =
      (visitAllFrom address i outlines).map fun v => (v.1.length, v.2)
  | [] => rfl
  | child :: rest => by
    have hchild := flattenFrom_length (address ++ [i]) child
    rw [List.length_append, List.length_singleton] at hchild
    rw [flattenAllFrom, visitAllFrom, List.map_append, hchild,
      flattenAllFrom_length address (i + 1) rest]

end

mutual

/-- The nodes of an outline are those at the addresses below its own. -/
theorem mem_visitFrom {address a : List Nat} {n : Outline} : {o : Outline} →
    ((a, n) ∈ visitFrom address o ↔ ∃ b, a = address ++ b ∧ o.at? b = some n)
  | node tag label children => by
    rw [visitFrom, List.mem_cons, mem_visitAllFrom]
    constructor
    · rintro (hself | ⟨j, b, rfl, hbelow⟩)
      · obtain ⟨rfl, rfl⟩ := Prod.mk.inj hself
        exact ⟨[], (List.append_nil _).symm, rfl⟩
      · exact ⟨j :: b, by rw [Nat.zero_add], hbelow⟩
    · rintro ⟨b, rfl, hn⟩
      cases b with
      | nil => exact .inl (by rw [List.append_nil, Option.some.inj hn])
      | cons j b => exact .inr ⟨j, b, by rw [Nat.zero_add], hn⟩

/-- The nodes of children are those at the addresses below the indices of the children. -/
theorem mem_visitAllFrom {address a : List Nat} {n : Outline} {i : Nat} :
    {outlines : List Outline} →
    ((a, n) ∈ visitAllFrom address i outlines ↔
      ∃ j b, a = address ++ (i + j) :: b ∧ outlines[j]?.bind (at? · b) = some n)
  | [] => by simp [visitAllFrom]
  | child :: rest => by
    rw [visitAllFrom, List.mem_append, mem_visitFrom, mem_visitAllFrom]
    constructor
    · rintro (⟨b, rfl, hn⟩ | ⟨j, b, rfl, hn⟩)
      · exact ⟨0, b, by simp, hn⟩
      · exact ⟨j + 1, b, by rw [Nat.add_assoc, Nat.add_comm 1 j], hn⟩
    · rintro ⟨_ | j, b, rfl, hn⟩
      · exact .inl ⟨b, by simp, hn⟩
      · exact .inr ⟨j, b, by rw [Nat.add_assoc, Nat.add_comm 1 j], hn⟩

end

mutual

/-- In pre-order the addresses ascend. -/
theorem pairwise_visitFrom (address : List Nat) : (o : Outline) →
    (visitFrom address o).Pairwise (·.1 < ·.1)
  | node tag label children => by
    rw [visitFrom, List.pairwise_cons]
    refine ⟨fun v hv => ?_, pairwise_visitAllFrom address 0 children⟩
    obtain ⟨j, b, hb, -⟩ := mem_visitAllFrom.1 hv
    have hlonger : address ++ [] < address ++ (0 + j) :: b :=
      List.append_left_lt (List.nil_lt_cons _ _)
    rwa [List.append_nil, ← hb] at hlonger

/-- The addresses below a child come before those below later children. -/
theorem pairwise_visitAllFrom (address : List Nat) (i : Nat) : (outlines : List Outline) →
    (visitAllFrom address i outlines).Pairwise (·.1 < ·.1)
  | [] => .nil
  | child :: rest => by
    rw [visitAllFrom, List.pairwise_append]
    refine ⟨pairwise_visitFrom _ child, pairwise_visitAllFrom address (i + 1) rest, ?_⟩
    intro v hv w hw
    obtain ⟨b, hb, -⟩ := mem_visitFrom.1 hv
    obtain ⟨j, b', hb', -⟩ := mem_visitAllFrom.1 hw
    rw [hb, hb', List.append_assoc]
    exact List.append_left_lt (List.cons_lt_cons_iff.2 (.inl (by omega)))

end

/-- Going to an address in two parts. -/
theorem at?_append (o : Outline) (a b : List Nat) : o.at? (a ++ b) = (o.at? a).bind (·.at? b) := by
  induction a generalizing o with
  | nil => rfl
  | cons i a ih =>
    rw [List.cons_append, at?, at?, Option.bind_assoc]
    exact congrArg (o.children[i]?.bind ·) (funext ih)

/-- How the node at an address stands among the children of its parent. -/
def branchAt (o : Outline) (address : List Nat) : Branch :=
  if address = [] then .root else if o.isLast address then .last else .inner

/-- The branches in front of the mark of the node at an address: one cell for each of its proper
ancestors below the root. -/
structure IsStem (o : Outline) (address : List Nat) (stem : Text) : Prop where
  length : stem.length = 2 * (address.length - 1)
  below : ∀ j, j + 1 < address.length → cell stem j =
    if o.isLast (address.take (j + 1)) then [' ', ' '] else ['│', ' ']

section

variable {o : Outline} {address : List Nat} {stem : Text}

/-- A node below the root is marked by whether it is a last child. -/
theorem mark_branchAt (h : address ≠ []) :
    (o.branchAt address).mark = if o.isLast address then ['└', ' '] else ['├', ' '] := by
  rw [branchAt, if_neg h]
  cases o.isLast address <;> rfl

/-- A node below the root hands on whether it is a last child. -/
theorem below_branchAt (h : address ≠ []) :
    (o.branchAt address).below = if o.isLast address then [' ', ' '] else ['│', ' '] := by
  rw [branchAt, if_neg h]
  cases o.isLast address <;> rfl

/-- What is drawn in front of a node and what is drawn below that have the same width. -/
theorem Branch.length_mark (branch : Branch) : branch.mark.length = branch.below.length := by
  cases branch <;> rfl

/-- The root takes no cell and any other node takes one. -/
theorem length_below_branchAt (o : Outline) (address : List Nat) :
    (o.branchAt address).below.length = 2 * (address.length - (address.length - 1)) := by
  cases address with
  | nil => rfl
  | cons i rest =>
    rw [below_branchAt (List.cons_ne_nil i rest), List.length_cons]
    split <;> simp

/-- A cell stays when branches are drawn behind it. -/
theorem cell_append {j : Nat} (h : 2 * (j + 1) ≤ stem.length) (branches : Text) :
    cell (stem ++ branches) j = cell stem j := by
  rw [cell, cell, List.drop_append_of_le_length (by omega), List.take_append_of_le_length]
  rw [List.length_drop]
  omega

/-- Behind all cells there is room for the next one. -/
theorem cell_length_append {j : Nat} (h : stem.length = 2 * j) {branches : Text}
    (hbranches : branches.length = 2) : cell (stem ++ branches) j = branches := by
  rw [cell, ← h, List.drop_left, ← hbranches, List.take_length]

/-- In front of the root there are no branches. -/
theorem isStem_nil (o : Outline) : IsStem o [] [] where
  length := rfl
  below := by simp

/-- The branches in front of a node with what is drawn for it have one cell for every level. -/
theorem IsStem.length_append (h : IsStem o address stem) {branches : Text}
    (hbranches : branches.length = (o.branchAt address).below.length) :
    (stem ++ branches).length = 2 * address.length := by
  rw [List.length_append, h.length, hbranches, length_below_branchAt]
  omega

/-- A node hands the branches in front of it and a cell for itself on to its children. -/
theorem IsStem.concat (h : IsStem o address stem) (i : Nat) :
    IsStem o (address ++ [i]) (stem ++ (o.branchAt address).below) where
  length := by
    rw [h.length_append rfl, List.length_append, List.length_singleton, Nat.add_sub_cancel]
  below := by
    intro j hj
    rw [List.length_append, List.length_singleton, Nat.add_lt_add_iff_right] at hj
    have hne : address ≠ [] := List.length_pos_iff.1 (Nat.zero_lt_of_lt hj)
    rw [List.take_append_of_le_length hj]
    rcases Nat.lt_or_eq_of_le hj with hinner | hlast
    · -- the cell of an earlier ancestor
      rw [cell_append (by rw [h.length]; omega), h.below j hinner]
    · -- the cell of the node itself
      have hroom : stem.length = 2 * j := by rw [h.length, ← hlast, Nat.succ_sub_one]
      have hcell : (o.branchAt address).below.length = 2 := by
        rw [length_below_branchAt]
        omega
      rw [cell_length_append hroom hcell, below_branchAt hne, hlast, List.take_length]

/-- A node is drawn by its mark behind the branches that are handed to it. -/
theorem IsStem.draws (h : IsStem o address stem) (n : Outline) :
    Draws o address n ⟨stem ++ (o.branchAt address).mark, n.tag, n.label⟩ where
  text := by
    cases hlabel : n.label <;> simp [TreePane.row, Line.text, caption, hlabel]
  length := h.length_append (Branch.length_mark _)
  mark := by
    intro hne
    have hcell : (o.branchAt address).mark.length = 2 := by
      rw [mark_branchAt hne]
      split <;> rfl
    rw [cell_length_append h.length hcell, mark_branchAt hne]
  below := by
    intro j hj
    rw [cell_append (by rw [h.length]; omega), h.below j hj]

/-- The node at the address of a child. -/
theorem at?_concat {n : Outline} {i : Nat} (h : o.at? address = some n) :
    o.at? (address ++ [i]) = n.children[i]? := by
  rw [at?_append, h]
  cases hchild : n.children[i]? <;> simp [at?, hchild]

/-- A child is the last one when nothing follows it. -/
theorem branchAt_concat {tag : Tag} {label : Option Text} {earlier rest : List Outline}
    {child : Outline} (h : o.at? address = some (node tag label (earlier ++ child :: rest))) :
    o.branchAt (address ++ [earlier.length]) = if rest.isEmpty then .last else .inner := by
  have hlast : o.isLast (address ++ [earlier.length]) = rest.isEmpty := by
    rw [isLast, List.dropLast_concat, List.getLast?_concat, h]
    cases rest <;> simp [children]
  rw [branchAt, if_neg (List.append_ne_nil_of_right_ne_nil _ (List.cons_ne_nil _ _)), hlast]

end

mutual

/-- The rows of the node at an address draw it and the nodes below it. -/
theorem draws_rowsFrom (o : Outline) : (n : Outline) → {address : List Nat} → {stem : Text} →
    o.at? address = some n → IsStem o address stem →
    List.Forall₂ (fun v row => Draws o v.1 v.2 row) (visitFrom address n)
      (rowsFrom stem (o.branchAt address) n)
  | node tag label children, address, stem, hn, hstem => by
    have hall : o.at? address = some (node tag label ([] ++ children)) := hn
    rw [visitFrom, rowsFrom]
    exact .cons (hstem.draws (node tag label children))
      (draws_rowsOfAllFrom o children hall fun i => hstem.concat i)

/-- The rows of the children of the node at an address draw them and the nodes below them. -/
theorem draws_rowsOfAllFrom (o : Outline) : (rest : List Outline) → {address : List Nat} →
    {stem : Text} → {tag : Tag} → {label : Option Text} → {earlier : List Outline} →
    o.at? address = some (node tag label (earlier ++ rest)) →
    (∀ i, IsStem o (address ++ [i]) stem) →
    List.Forall₂ (fun v row => Draws o v.1 v.2 row) (visitAllFrom address earlier.length rest)
      (rowsOfAllFrom stem rest)
  | [], _, _, _, _, _, _, _ => .nil
  | child :: rest, address, stem, tag, label, earlier, hn, hstem => by
    -- the index of a child is the number of its earlier siblings
    have hchild : o.at? (address ++ [earlier.length]) = some child := by
      rw [at?_concat hn, children, List.getElem?_append_right (Nat.le_refl _), Nat.sub_self]
      rfl
    have hlater : o.at? address = some (node tag label ((earlier ++ [child]) ++ rest)) := by
      rwa [List.append_assoc]
    rw [visitAllFrom, rowsOfAllFrom, ← branchAt_concat hn]
    refine List.rel_append (draws_rowsFrom o child hchild (hstem _)) ?_
    have hrest := draws_rowsOfAllFrom o rest hlater hstem
    rwa [List.length_append] at hrest

end

/-- A row that draws a node says the same as the line of the node in the text of the outline. -/
theorem Draws.indented_eq {o n : Outline} {address : List Nat} {row : Row}
    (h : Draws o address n row) :
    row.indented = List.replicate (2 * address.length) ' ' ++ n.caption := by
  rw [Row.indented, h.text, List.drop_left, h.length]

/-- Rows that draw nodes say the same as the lines of the nodes. -/
theorem flatMap_indented {o : Outline} {visits : List (List Nat × Outline)} {rows : List Row}
    (h : List.Forall₂ (fun v row => Draws o v.1 v.2 row) visits rows) :
    (rows.flatMap fun row => row.indented ++ ['\n']) = visits.flatMap fun v =>
      List.replicate (2 * v.1.length) ' ' ++ v.2.caption ++ ['\n'] := by
  induction h with
  | nil => rfl
  | cons hdraws _ ih => rw [List.flatMap_cons, List.flatMap_cons, hdraws.indented_eq, ih]

/-- The rows of an outline draw its nodes in the order in which it is flattened, each node with its
own address. With the branches blotted out they are the outline as text. -/
theorem rows_draw_nodes (o : Outline) :
    ∃ visits : List (List Nat × Outline),
      visits.Pairwise (·.1 < ·.1) ∧
      (∀ address n, (address, n) ∈ visits ↔ o.at? address = some n) ∧
      o.flatten = visits.map (fun v => (v.1.length, v.2)) ∧
      List.Forall₂ (fun v row => Draws o v.1 v.2 row) visits o.rows ∧
      o.text = o.rows.flatMap fun row => row.indented ++ ['\n'] := by
  have hflatten : o.flatten = (visitFrom [] o).map fun v => (v.1.length, v.2) :=
    flattenFrom_length [] o
  have hdraws : List.Forall₂ (fun v row => Draws o v.1 v.2 row) (visitFrom [] o) o.rows :=
    draws_rowsFrom o o rfl (isStem_nil o)
  refine ⟨visitFrom [] o, pairwise_visitFrom [] o, fun address n => ?_, hflatten, hdraws, ?_⟩
  · rw [mem_visitFrom]
    constructor
    · rintro ⟨b, rfl, hn⟩
      exact hn
    · exact fun hn => ⟨address, rfl, hn⟩
  · rw [flatMap_indented hdraws, text, hflatten, List.flatMap_map]

example : (Tree.program [.program [.empty], .empty]).outline.rows.map (Line.text <| TreePane.row ·) =
    ["Program", "├ Program", "│ └ Empty", "└ Empty"].map String.toList := by
  decide

end Outline

end DeclLang
