import ClientBoundary.Proofs.Traversal

/-!
# Converting a parse tree

The conversion of a parse tree threads a counter through a recursion, while everything that later
looks at the result walks it with a stack. Both meet the nodes in the same order, so the tree that
comes out has the ordinals of the walk, and node by node it carries what the parser said. The nodes
of a subtree stand next to each other in pre-order, so their ordinals are an interval, and whether
one node stands below another can be read off the ordinals.

## Main definitions

* `Node.TakesOver`: a node carries what a node of the parse tree says.

## Main results

* `Tree.subtrees_isInfix`: the nodes of a subtree stand next to each other in pre-order.
* `CodeTree.ids_of_mem_subtrees`: the ordinals of a subtree are an interval.
* `CodeTree.forall₂_takesOver`: node by node a converted tree carries what the parser said.
* `CodeTree.ofParseTree_faithful`: the tree that a parse tree becomes.
-/

namespace ClientBoundary

namespace Tree

variable {α : Type}

/-! ### Subtrees in pre-order -/

theorem length_forestSubtrees {ts : List (Tree α)}
    (htrees : ∀ t ∈ ts, t.subtrees.length = t.size) :
    (forestSubtrees ts).length = forestSize ts := by
  induction ts with
  | nil => rfl
  | cons t ts ih =>
    rw [forestSubtrees, List.length_append, htrees t List.mem_cons_self,
      ih fun u hu ↦ htrees u (List.mem_cons_of_mem t hu), forestSize]

theorem length_subtrees (t : Tree α) : t.subtrees.length = t.size := by
  induction t using induction with
  | node a ts ih => rw [subtrees, List.length_cons, length_forestSubtrees ih, size]

theorem subtrees_isInfix_forestSubtrees {t : Tree α} {ts : List (Tree α)} (ht : t ∈ ts) :
    t.subtrees <:+: forestSubtrees ts := by
  obtain ⟨before, after, rfl⟩ := List.append_of_mem ht
  refine ⟨forestSubtrees before, forestSubtrees after, ?_⟩
  rw [forestSubtrees_append, forestSubtrees, List.append_assoc]

/-- The nodes of a subtree stand next to each other in pre-order. -/
theorem subtrees_isInfix {t u : Tree α} (hu : u ∈ t.subtrees) : u.subtrees <:+: t.subtrees := by
  induction t using induction with
  | node a ts ih =>
    rcases mem_subtrees_iff.mp hu with rfl | ⟨s, hs, hu⟩
    · exact List.infix_rfl
    · have hbelow : u.subtrees <:+: forestSubtrees ts :=
        (ih s hs hu).trans (subtrees_isInfix_forestSubtrees hs)
      rw [subtrees]
      exact List.infix_cons hbelow

end Tree

open ClientBoundary.Tree

/-! ### Ordinals of a subtree -/

/-- Numbers next to each other in an interval are an interval. -/
theorem eq_range'_of_isInfix {start length first : Nat} {rest : List Nat}
    (h : first :: rest <:+: List.range' start length) :
    first :: rest = List.range' first (rest.length + 1) := by
  obtain ⟨before, after, happend⟩ := h
  obtain ⟨k, -, hfront, -⟩ := List.range'_eq_append_iff.mp happend.symm
  obtain ⟨m, -, -, hmiddle⟩ := List.range'_eq_append_iff.mp hfront.symm
  obtain ⟨-, -, hrest⟩ := List.range'_eq_cons_iff.mp hmiddle.symm
  have hlength : rest.length = k - m - 1 := by rw [hrest, List.length_range']
  rw [List.range'_succ, hlength, ← hrest]

namespace CodeTree

/-- Where the ordinals of a tree are an interval, those of each subtree are one too. -/
theorem ids_of_mem_subtrees {t u : CodeTree} {start length : Nat}
    (h : t.ids = List.range' start length) (hu : u ∈ t.subtrees) :
    u.ids = List.range' u.label.id u.size := by
  have hinside : u.ids <:+: List.range' start length := h ▸ (subtrees_isInfix hu).map _
  have hlength : u.ids.length = u.size := by rw [ids, List.length_map, length_subtrees]
  obtain ⟨n, ts⟩ := u
  rw [ids_node] at hinside hlength ⊢
  rw [eq_range'_of_isInfix hinside, ← hlength, List.length_cons]
  rfl

/-- Whether a node stands at or below another is decided by their ordinals, where these are
consecutive in pre-order. -/
theorem mem_subtrees_iff_id_mem {t u v : CodeTree} {start length : Nat}
    (h : t.ids = List.range' start length) (hu : u ∈ t.subtrees) (hv : v ∈ t.subtrees) :
    v ∈ u.subtrees ↔ u.label.id ≤ v.label.id ∧ v.label.id < u.label.id + u.size := by
  have hids : t.HasDistinctIds := by
    rw [HasDistinctIds, h]
    exact List.nodup_range'
  have hmem : v.label.id ∈ u.ids ↔ u.label.id ≤ v.label.id ∧ v.label.id < u.label.id + u.size := by
    rw [ids_of_mem_subtrees h hu, List.mem_range'_1]
  rw [← hmem]
  constructor
  · intro hbelow
    exact HasDistinctIds.mem_ids_of_mem hbelow
  · intro hid
    obtain ⟨w, hw, hwid⟩ := List.mem_map.mp hid
    rwa [← hids.eq_of_id_eq (mem_subtrees_trans hu hw) hv hwid]

end CodeTree

/-! ### Node by node -/

/-- A node carries what a node of the parse tree says: its rule and field, whether the rule has a
name, the bytes it covers and the points where it starts and ends. -/
structure Node.TakesOver (n : Node) (raw : RawNode) : Prop where
  rule : n.rule = raw.rule
  field : n.field = raw.field
  named : n.named = raw.named
  span : n.span = raw.span
  first : n.first = raw.first
  last : n.last = raw.last

theorem RawNode.takesOver_toNode (raw : RawNode) (id : Nat) (kind : NodeKind)
    (text : Option String) : (raw.toNode id kind text).TakesOver raw :=
  ⟨rfl, rfl, rfl, rfl, rfl, rfl⟩

namespace CodeTree

/-- Node by node, in pre-order, a converted tree carries what the parser said. -/
theorem forall₂_takesOver {bytes : Bytes} (raw : ParseTree) :
    ∀ inName id t next, number bytes inName id raw = .ok (t, next) →
      List.Forall₂ (fun u raw ↦ u.label.TakesOver raw.label) t.subtrees raw.subtrees := by
  refine number_induction
    (fun _ _ raw t _ ↦
      List.Forall₂ (fun u raw ↦ u.label.TakesOver raw.label) t.subtrees raw.subtrees)
    (fun _ _ raws ts _ ↦ List.Forall₂ (fun u raw ↦ u.label.TakesOver raw.label)
      (forestSubtrees ts) (forestSubtrees raws)) ?_ ?_ ?_ raw
  · rintro inName id raw raws text ts next - hbelow
    rw [subtrees, subtrees]
    exact .cons (raw.takesOver_toNode id _ text) hbelow
  · intro inName id
    exact .nil
  · intro inName id middle next raw raws t ts hfirst hrest
    rw [forestSubtrees, forestSubtrees]
    exact List.rel_append hfirst hrest

/-- **A converted tree is the parse tree, numbered.** A walk over the tree that a parse tree becomes
meets as many nodes as the parse tree has. Their ordinals count up from zero, and each node carries
what the node at the same place of the parse tree's pre-order says. The ordinals at and below a node
are the interval from its own on that is as long as the subtree is large. So no two nodes share an
ordinal, and a node stands at or below another exactly when its ordinal lies in that interval. -/
theorem ofParseTree_faithful {bytes : Bytes} {raw : ParseTree} {t : CodeTree}
    (h : ofParseTree bytes raw = .ok t) :
    t.walk.length = raw.size ∧
    t.walk.map (fun u ↦ u.label.id) = List.range raw.size ∧
    List.Forall₂ (fun u raw ↦ u.label.TakesOver raw.label) t.walk raw.subtrees ∧
    (∀ u ∈ t.subtrees, u.subtrees.map (fun v ↦ v.label.id) = List.range' u.label.id u.size) ∧
    (∀ u ∈ t.subtrees, ∀ v ∈ t.subtrees, u.label.id = v.label.id → u = v) ∧
    ∀ u ∈ t.subtrees, ∀ v ∈ t.subtrees,
      v ∈ u.subtrees ↔ u.label.id ≤ v.label.id ∧ v.label.id < u.label.id + u.size := by
  have hids : t.ids = List.range raw.size := ids_of_ofParseTree h
  have hinterval : t.ids = List.range' 0 raw.size := by rw [hids, List.range_eq_range']
  have hdistinct : t.HasDistinctIds := hasDistinctIds_of_ofParseTree h
  obtain ⟨⟨program, next⟩, hnumber, rfl⟩ := map_eq_ok_iff.mp h
  have hnodes := forall₂_takesOver raw _ _ _ _ hnumber
  rw [walk_eq_subtrees]
  refine ⟨hnodes.length_eq.trans raw.length_subtrees, hids, hnodes, ?_, ?_, ?_⟩
  · intro u hu
    exact ids_of_mem_subtrees hinterval hu
  · intro u hu v hv hid
    exact hdistinct.eq_of_id_eq hu hv hid
  · intro u hu v hv
    exact mem_subtrees_iff_id_mem hinterval hu hv

/-- The parse tree of a statement and an export has nine nodes, and the export is the fifth of them
with the four tokens behind it. -/
theorem ofParseTree_faithful_export :
    let raw := ParseTree.onFirstLine "program" none true 0 20
      (OneLine.trees 0 [.mention "a", .exportDefault "b"])
    ∃ t s, ofParseTree (OneLine.source [.mention "a", .exportDefault "b"]) raw = .ok t ∧
      t.walk.map (fun u ↦ u.label.id) = [0, 1, 2, 3, 4, 5, 6, 7, 8] ∧
      List.Forall₂ (fun u raw ↦ u.label.TakesOver raw.label) t.walk raw.subtrees ∧
      s ∈ t.subtrees ∧ s.label.kind = .defaultExport ∧
      s.subtrees.map (fun u ↦ u.label.id) = [4, 5, 6, 7, 8] := by
  intro raw
  obtain ⟨t, ht, hexport⟩ := exists_ok_of_toOption
    (x := ofParseTree (OneLine.source [.mention "a", .exportDefault "b"]) raw)
    (f := fun t ↦ t.children.map fun s ↦ (s.label.kind, s.label.id, s.size))
    (b := [(.expressionStatement, 1, 3), (.defaultExport, 4, 5)]) (by decide +kernel)
  obtain ⟨-, hids, hnodes, hinterval, -⟩ := ofParseTree_faithful ht
  have hmem : (NodeKind.defaultExport, 4, 5) ∈
      t.children.map fun s ↦ (s.label.kind, s.label.id, s.size) := by
    rw [hexport]
    exact List.mem_cons_of_mem _ List.mem_cons_self
  obtain ⟨s, hs, hvalues⟩ := List.mem_map.mp hmem
  simp only [Prod.mk.injEq] at hvalues
  obtain ⟨hkind, hid, hsize⟩ := hvalues
  have hs : s ∈ t.subtrees := mem_subtrees_of_mem_children hs s.self_mem_subtrees
  refine ⟨t, s, ht, hids, hnodes, hs, hkind, ?_⟩
  rw [hinterval s hs, hid, hsize]
  rfl

end CodeTree

end ClientBoundary
