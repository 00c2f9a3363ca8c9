import DeclLang.Proofs.Span
import DeclLang.Tree.Outline

/-!
# Listed outlines

The listing of an outline has an entry for every node in pre-order: its depth, its tag and its
label. It does not say which nodes are children of which, but that can be read off the depths.
`grown` reads a listing from its end. It keeps the outlines that no entry has claimed yet, each with
its depth; an entry claims those at the front that lie deeper than itself.

The outlines of trees are turned back into trees on top of that. A declaration is known by its tag,
since no tree has a leaf for a type, an identifier or an expression anywhere else.
-/

namespace DeclLang

namespace Outline

/-- What a listing tells of a node. -/
structure Entry where
  depth : Nat
  tag : Tag
  label : Option Text
deriving DecidableEq, Repr

/-- The entry of a node at a depth. -/
def entry (v : Nat × Outline) : Entry := ⟨v.1, v.2.tag, v.2.label⟩

/-- The listing of an outline. -/
def entries (o : Outline) : List Entry := o.flatten.map entry

/-- The outlines that a listing leaves unclaimed, with their depths. -/
def grown : List Entry → List (Nat × Outline)
  | [] => []
  | e :: rest =>
    (e.depth, node e.tag e.label (((grown rest).takeWhile (e.depth < ·.1)).map (·.2))) ::
      (grown rest).dropWhile (e.depth < ·.1)

/-- The outline with the given listing. -/
def ofEntries? (es : List Entry) : Option Outline :=
  match grown es with
  | [(_, o)] => some o
  | _ => none

mutual

/-- The entries of an outline grow into that outline when what follows is not deeper. -/
theorem grown_flattenFrom : (o : Outline) → {depth : Nat} → {rest : List Entry} →
    (∀ later ∈ (grown rest).head?, later.1 ≤ depth) →
    grown ((flattenFrom depth o).map entry ++ rest) = (depth, o) :: grown rest
  | node tag label children, depth, rest, h => by
    have hchildren : grown ((flattenAllFrom (depth + 1) children).map entry ++ rest) =
        children.map (depth + 1, ·) ++ grown rest :=
      grown_flattenAllFrom children fun later hlater => Nat.le_succ_of_le (h later hlater)
    -- the children are unclaimed and deeper than the node, what follows them is not
    have hdeeper : ∀ v ∈ children.map (depth + 1, ·), decide (depth < v.1) := by
      intro v hv
      obtain ⟨child, -, rfl⟩ := List.mem_map.1 hv
      exact decide_eq_true (Nat.lt_succ_self depth)
    have hstop : ∀ v ∈ (grown rest).head?, decide (depth < v.1) = false :=
      fun v hv => decide_eq_false (Nat.not_lt.2 (h v hv))
    rw [flattenFrom, List.map_cons, List.cons_append, grown, hchildren, entry,
      Text.takeWhile_append_eq hdeeper hstop, Text.dropWhile_append_eq hdeeper hstop,
      List.map_map]
    simp [Outline.tag, Outline.label, Function.comp_def]

/-- The entries of outlines side by side grow into those outlines. -/
theorem grown_flattenAllFrom : (outlines : List Outline) → {depth : Nat} → {rest : List Entry} →
    (∀ later ∈ (grown rest).head?, later.1 ≤ depth) →
    grown ((flattenAllFrom depth outlines).map entry ++ rest) =
      outlines.map (depth, ·) ++ grown rest
  | [], _, _, _ => rfl
  | child :: siblings, depth, rest, h => by
    have hsiblings := grown_flattenAllFrom siblings h
    have hnext : ∀ later ∈ (grown ((flattenAllFrom depth siblings).map entry ++ rest)).head?,
        later.1 ≤ depth := by
      rw [hsiblings]
      cases siblings with
      | nil => exact h
      | cons sibling _ => simp
    rw [flattenAllFrom, List.map_append, List.append_assoc, grown_flattenFrom child hnext,
      hsiblings, List.map_cons, List.cons_append]

end

/-- An outline is the one with its listing. -/
theorem ofEntries?_entries (o : Outline) : ofEntries? o.entries = some o := by
  have h : grown ((flattenFrom 0 o).map entry ++ []) = [(0, o)] :=
    grown_flattenFrom o (by simp [grown])
  rw [List.append_nil] at h
  rw [entries, flatten, ofEntries?, h]

mutual

/-- The tree with an outline. -/
def tree? : Outline → Option Tree
  | node .program none children => (trees? children).map .program
  | node .variableDeclaration none
      [node .type (some typeName) [], node .identifier (some identifier) [],
        node .expression (some expression) []] =>
    some (.declaration ⟨typeName, identifier, expression⟩)
  | node .empty none [] => some .empty
  | _ => none

/-- The trees with outlines side by side. -/
def trees? : List Outline → Option (List Tree)
  | [] => some []
  | child :: rest => do
    let t ← tree? child
    let ts ← trees? rest
    return t :: ts

end

end Outline

namespace Tree

mutual

/-- A tree is the one with its outline. -/
theorem tree?_outline : (t : Tree) → t.outline.tree? = some t
  | program children => by
    rw [outline, Outline.tree?, trees?_outlines children]
    rfl
  | declaration d => rfl
  | empty => rfl

/-- Trees are those with their outlines. -/
theorem trees?_outlines : (trees : List Tree) → Outline.trees? (outlines trees) = some trees
  | [] => rfl
  | child :: rest => by
    rw [outlines, Outline.trees?, tree?_outline child, trees?_outlines rest]
    rfl

end

/-- The tree with a listing. -/
def ofEntries? (es : List Outline.Entry) : Option Tree := (Outline.ofEntries? es).bind (·.tree?)

/-- A tree can be rebuilt from its listing, so trees with the same listing are equal. -/
theorem entries_determine (t : Tree) :
    ofEntries? t.outline.entries = some t ∧
      ∀ s : Tree, s.outline.entries = t.outline.entries ↔ s = t := by
  have hback (t : Tree) : ofEntries? t.outline.entries = some t := by
    rw [ofEntries?, Outline.ofEntries?_entries, Option.bind_some, tree?_outline]
  refine ⟨hback t, fun s => ⟨fun h => ?_, fun h => by rw [h]⟩⟩
  have hs := hback s
  rw [h, hback t] at hs
  exact (Option.some.inj hs).symm

end Tree

end DeclLang
