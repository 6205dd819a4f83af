import ClientBoundary.CodeTree
import ClientBoundary.Proofs.Outcome
import ClientBoundary.Proofs.TreeSearch
import Mathlib.Data.List.Nodup
import Mathlib.Data.List.Range

/-!
# Ordinals of nodes

Converting a parse tree threads a counter through its nodes, a node before its children and one
child after the other. The ordinals of the tree that comes out are therefore consecutive in
pre-order, so no two nodes share one, and the ordinal of a node tells which child of the root it
stands below.

## Main definitions

* `CodeTree.ids`: the ordinals of the nodes of a tree in pre-order.
* `CodeTree.HasDistinctIds`: no two nodes of a tree share an ordinal.

## Main results

* `CodeTree.number_induction`: induction along a conversion.
* `CodeTree.ids_of_number`: the ordinals of a converted tree count up from the given one.
* `CodeTree.hasDistinctIds_of_ofSource`: the tree of a source has distinct ordinals.
* `CodeTree.HasDistinctIds.child_eq`: an ordinal stands below one child of the root only.
-/

namespace ClientBoundary

namespace CodeTree

open ClientBoundary.Tree

/-- The ordinals of the nodes of a tree in pre-order. -/
def ids (t : CodeTree) : List Nat :=
  t.subtrees.map fun u ↦ u.label.id

/-- No two nodes of a tree share an ordinal. -/
def HasDistinctIds (t : CodeTree) : Prop :=
  t.ids.Nodup

theorem ids_node (n : Node) (ts : List CodeTree) :
    ids (.node n ts) = n.id :: ts.flatMap ids := by
  rw [ids, subtrees, forestSubtrees_eq_flatMap, List.map_cons, List.map_flatMap]
  rfl

/-! ### Conversion step by step -/

/-- A node is converted when its children are and its own text can be read. -/
theorem number_eq_ok_iff {bytes : Bytes} {inName : Bool} {id next : Nat} {raw : RawNode}
    {ts : List ParseTree} {t : CodeTree} :
    number bytes inName id (.node raw ts) = .ok (t, next) ↔
      ∃ children text,
        numberForest bytes (namesElement inName raw.rule) (id + 1) ts = .ok (children, next) ∧
        nodeText bytes (NodeKind.ofRaw inName raw ts) raw.span = .ok text ∧
        t = .node (raw.toNode id (NodeKind.ofRaw inName raw ts) text) children := by
  simp only [number, bind_eq_ok_iff, pure_eq_ok_iff, Prod.exists, Prod.mk.injEq]
  constructor
  · rintro ⟨children, next, hchildren, text, htext, rfl, rfl⟩
    exact ⟨children, text, hchildren, htext, rfl⟩
  · rintro ⟨children, text, hchildren, htext, rfl⟩
    exact ⟨children, next, hchildren, text, htext, rfl, rfl⟩

theorem numberForest_nil {bytes : Bytes} {inName : Option String → Bool} {id : Nat} :
    numberForest bytes inName id [] = .ok ([], id) := by
  rw [numberForest]

/-- Several trees are converted one after the other. -/
theorem numberForest_cons_eq_ok_iff {bytes : Bytes} {inName : Option String → Bool}
    {id next : Nat} {raw : ParseTree} {raws : List ParseTree} {ts : List CodeTree} :
    numberForest bytes inName id (raw :: raws) = .ok (ts, next) ↔
      ∃ child middle children,
        number bytes (inName raw.label.field) id raw = .ok (child, middle) ∧
        numberForest bytes inName middle raws = .ok (children, next) ∧
        ts = child :: children := by
  simp only [numberForest, bind_eq_ok_iff, pure_eq_ok_iff, Prod.exists, Prod.mk.injEq]
  constructor
  · rintro ⟨child, middle, hchild, children, next, hchildren, rfl, rfl⟩
    exact ⟨child, middle, children, hchild, hchildren, rfl⟩
  · rintro ⟨child, middle, children, hchild, hchildren, rfl⟩
    exact ⟨child, middle, hchild, children, next, hchildren, rfl, rfl⟩

/-- Induction along a conversion: what holds of a node once it holds of its converted children, and
of several trees once it holds of each in turn, holds of every converted tree. -/
theorem number_induction {bytes : Bytes}
    (onTree : Bool → Nat → ParseTree → CodeTree → Nat → Prop)
    (onForest : (Option String → Bool) → Nat → List ParseTree → List CodeTree → Nat → Prop)
    (node : ∀ inName id raw raws text ts next,
      nodeText bytes (NodeKind.ofRaw inName raw raws) raw.span = .ok text →
      onForest (namesElement inName raw.rule) (id + 1) raws ts next →
      onTree inName id (.node raw raws)
        (.node (raw.toNode id (NodeKind.ofRaw inName raw raws) text) ts) next)
    (nil : ∀ inName id, onForest inName id [] [] id)
    (cons : ∀ inName id middle next raw raws t ts,
      onTree (inName raw.label.field) id raw t middle → onForest inName middle raws ts next →
      onForest inName id (raw :: raws) (t :: ts) next)
    (raw : ParseTree) :
    ∀ inName id t next, number bytes inName id raw = .ok (t, next) →
      onTree inName id raw t next := by
  induction raw using Tree.induction with
  | node raw raws ih =>
    have hforest : ∀ rest, (∀ r ∈ rest, r ∈ raws) → ∀ inName id ts next,
        numberForest bytes inName id rest = .ok (ts, next) → onForest inName id rest ts next := by
      intro rest hrest inName id ts next h
      induction rest generalizing id ts with
      | nil =>
        rw [numberForest_nil, Except.ok.injEq, Prod.mk.injEq] at h
        obtain ⟨rfl, rfl⟩ := h
        exact nil inName id
      | cons r rest ihrest =>
        obtain ⟨t, middle, ts, ht, hts, rfl⟩ := numberForest_cons_eq_ok_iff.mp h
        obtain ⟨hr, hrest⟩ := List.forall_mem_cons.mp hrest
        exact cons inName id middle next r rest t ts (ih r hr _ _ _ _ ht) (ihrest hrest _ _ hts)
    intro inName id t next h
    obtain ⟨ts, text, hts, htext, rfl⟩ := number_eq_ok_iff.mp h
    exact node inName id raw raws text ts next htext
      (hforest raws (fun _ hr ↦ hr) _ _ _ _ hts)

/-! ### Consecutive ordinals -/

/-- The ordinals of a converted tree count up from the given one, and the next one follows. -/
theorem ids_of_number {bytes : Bytes} (raw : ParseTree) :
    ∀ inName id t next, number bytes inName id raw = .ok (t, next) →
      next = id + raw.size ∧ t.ids = List.range' id raw.size := by
  refine number_induction
    (fun _ id raw t next ↦ next = id + raw.size ∧ t.ids = List.range' id raw.size)
    (fun _ id raws ts next ↦
      next = id + forestSize raws ∧ ts.flatMap ids = List.range' id (forestSize raws))
    ?_ ?_ ?_ raw
  · rintro inName id raw raws text ts next - ⟨rfl, hids⟩
    refine ⟨by simp only [size]; omega, ?_⟩
    rw [ids_node, hids, size, List.range'_succ]
    rfl
  · intro inName id
    simp [forestSize]
  · rintro inName id middle next raw raws t ts ⟨rfl, hids⟩ ⟨rfl, hforest⟩
    refine ⟨by simp only [forestSize]; omega, ?_⟩
    rw [List.flatMap_cons, hids, hforest, forestSize, List.range'_append_1]

/-- The ordinals of the tree of a parse tree count up from zero. -/
theorem ids_of_ofParseTree {bytes : Bytes} {raw : ParseTree} {t : CodeTree}
    (h : ofParseTree bytes raw = .ok t) : t.ids = List.range raw.size := by
  obtain ⟨⟨t, next⟩, hnumber, rfl⟩ := map_eq_ok_iff.mp h
  rw [List.range_eq_range']
  exact (ids_of_number raw _ _ _ _ hnumber).2

/-- The tree of a parse tree has distinct ordinals. -/
theorem hasDistinctIds_of_ofParseTree {bytes : Bytes} {raw : ParseTree} {t : CodeTree}
    (h : ofParseTree bytes raw = .ok t) : t.HasDistinctIds := by
  rw [HasDistinctIds, ids_of_ofParseTree h]
  exact List.nodup_range

/-- A source is accepted when its parse tree has no fault and all texts in it can be read. -/
theorem ofSource_eq_ok_iff {parser : Parser} {grammar : Grammar} {bytes : Bytes}
    {program : CodeTree} :
    ofSource parser grammar bytes = .ok program ↔
      ∃ raw, parser grammar bytes = some raw ∧ raw.firstFault = none ∧
        ofParseTree bytes raw = .ok program := by
  unfold ofSource ofAccepted
  cases parser grammar bytes with
  | none => simp
  | some raw =>
    cases hfault : raw.firstFault with
    | none => simp [hfault]
    | some fault => simp [hfault]

/-- The tree of a source has distinct ordinals. -/
theorem hasDistinctIds_of_ofSource {parser : Parser} {grammar : Grammar} {bytes : Bytes}
    {program : CodeTree} (h : ofSource parser grammar bytes = .ok program) :
    program.HasDistinctIds := by
  obtain ⟨raw, -, -, hprogram⟩ := ofSource_eq_ok_iff.mp h
  exact hasDistinctIds_of_ofParseTree hprogram

/-! ### Distinct ordinals tell nodes apart -/

namespace HasDistinctIds

variable {t s s' u v : CodeTree}

theorem mem_ids_of_mem (hu : u ∈ t.subtrees) : u.label.id ∈ t.ids :=
  List.mem_map.mpr ⟨u, hu, rfl⟩

/-- Nodes with the same ordinal are the same node. -/
theorem eq_of_id_eq (h : t.HasDistinctIds) (hu : u ∈ t.subtrees) (hv : v ∈ t.subtrees)
    (hid : u.label.id = v.label.id) : u = v :=
  List.inj_on_of_nodup_map h hu hv hid

/-- No node below a child of the root has the ordinal of the root. -/
theorem root_id_ne (h : t.HasDistinctIds) (hs : s ∈ t.children) (hu : u ∈ s.subtrees) :
    t.label.id ≠ u.label.id := by
  obtain ⟨n, ts⟩ := t
  rw [HasDistinctIds, ids_node, List.nodup_cons] at h
  intro hid
  refine h.1 (List.mem_flatMap.mpr ⟨s, hs, ?_⟩)
  rw [show n.id = u.label.id from hid]
  exact mem_ids_of_mem hu

/-- An ordinal stands below one child of the root only. -/
theorem child_eq (h : t.HasDistinctIds) (hs : s ∈ t.children) (hs' : s' ∈ t.children)
    (hu : u ∈ s.subtrees) (hv : v ∈ s'.subtrees) (hid : u.label.id = v.label.id) : s = s' := by
  obtain ⟨n, ts⟩ := t
  rw [HasDistinctIds, ids_node, List.nodup_cons, List.nodup_flatMap] at h
  by_contra hne
  have hsymm : Std.Symm (Function.onFun List.Disjoint ids) :=
    ⟨fun _ _ hdisjoint ↦ List.disjoint_symm hdisjoint⟩
  have hdisjoint := h.2.2.forall hs hs' hne
  exact hdisjoint (mem_ids_of_mem hu) (hid ▸ mem_ids_of_mem hv)

/-- The children of the root have different ordinals. -/
theorem pairwise_children (h : t.HasDistinctIds) :
    t.children.Pairwise fun s s' ↦ s.label.id ≠ s'.label.id := by
  obtain ⟨n, ts⟩ := t
  rw [HasDistinctIds, ids_node, List.nodup_cons, List.nodup_flatMap] at h
  refine h.2.2.imp fun {s s'} hdisjoint hid ↦ ?_
  exact hdisjoint (mem_ids_of_mem s.self_mem_subtrees)
    (hid ▸ mem_ids_of_mem s'.self_mem_subtrees)

end HasDistinctIds

end CodeTree

end ClientBoundary
