import ClientBoundary.Proofs.Numbering
import ClientBoundary.Proofs.OneLine
import ClientBoundary.Tree.Traversal
import Mathlib.Data.List.Perm.Basic

/-!
# Going through a tree with a stack or by recursion

A walk keeps the rest of its way on a stack, and a keyed search keeps its verdicts in a table. Both
come out as the recursion over the tree does. For the walk, what it meets from a stack is what the
trees on the stack list one after the other. For the search, examining several trees leaves every
verdict on their nodes in the table and no other entry changed, as long as no two of these nodes
share a key: a shared key would let a verdict be overwritten before it is read.

## Main definitions

* `Tree.forestKeys`: the keys of the nodes of several trees.
* `Tree.Search.Learns`: how a table changes when several trees are searched.

## Main results

* `Tree.walk_eq_subtrees`: a walk meets the nodes in pre-order.
* `Tree.postorder_perm_subtrees`: post-order lists the nodes of pre-order in another order.
* `Tree.keyedSearch_eq`: a keyed search finds what a search finds if all keys are different.
* `CodeTree.search_by_ordinals`: the search of a tree by the ordinals of its nodes.
-/

namespace ClientBoundary

namespace Tree

variable {α κ : Type}

/-! ### Walks -/

theorem forestSubtrees_append (ts us : List (Tree α)) :
    forestSubtrees (ts ++ us) = forestSubtrees ts ++ forestSubtrees us := by
  rw [forestSubtrees_eq_flatMap, forestSubtrees_eq_flatMap, forestSubtrees_eq_flatMap,
    List.flatMap_append]

@[simp] theorem forestSubtrees_singleton (t : Tree α) : forestSubtrees [t] = t.subtrees := by
  rw [forestSubtrees, forestSubtrees, List.append_nil]

/-- A walk lists the trees on its stack one after the other, each in pre-order. -/
theorem walkFrom_eq (stack : List (Tree α)) : walkFrom stack = forestSubtrees stack := by
  fun_induction walkFrom stack with
  | case1 => rw [forestSubtrees]
  | case2 a ts stack ih =>
    rw [ih, forestSubtrees_append, forestSubtrees, subtrees, List.cons_append]

/-- A walk meets the nodes of a tree in pre-order. -/
theorem walk_eq_subtrees (t : Tree α) : t.walk = t.subtrees := by
  rw [walk, walkFrom_eq, forestSubtrees_singleton]

/-! ### Post-order -/

/-- Post-order lists the nodes of pre-order in another order. -/
theorem postorder_perm_subtrees (t : Tree α) : t.postorder.Perm t.subtrees := by
  induction t using induction with
  | node a ts ih =>
    have hforest : (ts.flatMap postorder).Perm (ts.flatMap subtrees) :=
      List.Perm.flatMap_left ts ih
    rw [postorder, subtrees, forestPostorder_eq_flatMap, forestSubtrees_eq_flatMap]
    exact (List.perm_append_singleton _ _).trans (hforest.cons _)

/-! ### Keys -/

/-- The keys of the nodes of several trees in pre-order. -/
def forestKeys (key : α → κ) (ts : List (Tree α)) : List κ :=
  (forestSubtrees ts).map fun u ↦ key u.label

section Keys

variable {key : α → κ} {ts : List (Tree α)}

theorem forestKeys_cons (t : Tree α) :
    forestKeys key (t :: ts) = forestKeys key [t] ++ forestKeys key ts := by
  simp [forestKeys, forestSubtrees]

theorem forestKeys_node (a : α) :
    forestKeys key [.node a ts] = key a :: forestKeys key ts := by
  simp [forestKeys, subtrees, label]

theorem key_mem_forestKeys {u : Tree α} (hu : u ∈ forestSubtrees ts) :
    key u.label ∈ forestKeys key ts :=
  List.mem_map_of_mem hu

end Keys

/-! ### Tables -/

namespace Search

variable [DecidableEq κ] {key : α → κ} {p : Tree α → Bool}

/-- A table has learnt of several trees: it has the verdict on each of their nodes and is otherwise
as it was before. -/
structure Learns (key : α → κ) (p : Tree α → Bool) (ts : List (Tree α))
    (before after : List (κ × Bool)) : Prop where
  verdict : ∀ u ∈ forestSubtrees ts, after.lookup (key u.label) = some (u.holdsWithin p)
  frame : ∀ k, k ∉ forestKeys key ts → after.lookup k = before.lookup k

theorem lookup_cons_of_ne {k k' : κ} {b : Bool} {known : List (κ × Bool)} (h : k ≠ k') :
    ((k', b) :: known).lookup k = known.lookup k := by
  rw [List.lookup_cons, beq_false_of_ne h]

/-- Children whose verdicts are known settle whether one of them holds. -/
theorem anyM_known {known? : Tree α → Option Bool} {holds : Tree α → Bool} {ts : List (Tree α)}
    (h : ∀ t ∈ ts, known? t = some (holds t)) : ts.anyM known? = some (ts.any holds) := by
  induction ts with
  | nil => rfl
  | cons t ts ih =>
    rw [List.anyM_cons, h t List.mem_cons_self, ih fun u hu ↦ h u (List.mem_cons_of_mem t hu),
      List.any_cons]
    cases holds t with
    | true => rfl
    | false => rfl

/-- A node holds if it satisfies the property or a child holds, once its own entry is the one that
was made when it was entered and the entries of its children are their verdicts. -/
theorem holdsByTable?_node {known : List (κ × Bool)} {a : α} {ts : List (Tree α)}
    (hown : known.lookup (key a) = some (p (.node a ts)))
    (hchild : ∀ c ∈ ts, known.lookup (key c.label) = some (c.holdsWithin p)) :
    holdsByTable? key known (.node a ts) = some ((Tree.node a ts).holdsWithin p) := by
  rw [holdsByTable?, label, hown, children, anyM_known hchild, holdsWithin_node]
  cases p (.node a ts) with
  | true => rfl
  | false => rfl

/-- What is learnt of a tree is not overwritten by trees that share no key with it. -/
theorem Learns.cons {t : Tree α} {ts : List (Tree α)} {before between after : List (κ × Bool)}
    (hkeys : (forestKeys key (t :: ts)).Nodup) (hfirst : Learns key p [t] before between)
    (hrest : Learns key p ts between after) : Learns key p (t :: ts) before after := by
  rw [forestKeys_cons, List.nodup_append'] at hkeys
  refine ⟨?_, ?_⟩
  · intro u hu
    rw [forestSubtrees, List.mem_append] at hu
    rcases hu with hu | hu
    · have hmem : u ∈ forestSubtrees [t] := by simpa using hu
      rw [hrest.frame _ (hkeys.2.2 (key_mem_forestKeys hmem))]
      exact hfirst.verdict u hmem
    · exact hrest.verdict u hu
  · intro k hk
    rw [forestKeys_cons, List.mem_append, not_or] at hk
    rw [hrest.frame k hk.2, hfirst.frame k hk.1]

/-- The verdict on a node, entered after what has been learnt of its children. -/
theorem Learns.node {a : α} {ts : List (Tree α)} {before between : List (κ × Bool)}
    (hkeys : (forestKeys key [.node a ts]).Nodup)
    (hbelow : Learns key p ts ((key a, p (.node a ts)) :: before) between) :
    Learns key p [.node a ts] before
      ((key a, (Tree.node a ts).holdsWithin p) :: between) := by
  rw [forestKeys_node, List.nodup_cons] at hkeys
  refine ⟨?_, ?_⟩
  · intro u hu
    rw [forestSubtrees_singleton, subtrees, List.mem_cons] at hu
    rcases hu with rfl | hu
    · exact List.lookup_cons_self
    · have hne : key u.label ≠ key a := fun h ↦ hkeys.1 (h ▸ key_mem_forestKeys hu)
      rw [lookup_cons_of_ne hne]
      exact hbelow.verdict u hu
  · intro k hk
    rw [forestKeys_node, List.mem_cons, not_or] at hk
    rw [lookup_cons_of_ne hk.1, hbelow.frame k hk.2, lookup_cons_of_ne hk.1]

/-- A node is settled by its verdict: its children leave its own entry alone and put their verdicts
beside it. -/
theorem Learns.leave {a : α} {ts : List (Tree α)} {before between : List (κ × Bool)}
    (hkeys : (forestKeys key [.node a ts]).Nodup)
    (hbelow : Learns key p ts ((key a, p (.node a ts)) :: before) between) :
    (table key p).leave (.node a ts) between =
      some ((Tree.node a ts).holdsWithin p,
        (key a, (Tree.node a ts).holdsWithin p) :: between) := by
  rw [forestKeys_node, List.nodup_cons] at hkeys
  have hown : between.lookup (key a) = some (p (.node a ts)) := by
    rw [hbelow.frame _ hkeys.1, List.lookup_cons_self]
  have hchild (c : Tree α) (hc : c ∈ ts) :
      between.lookup (key c.label) = some (c.holdsWithin p) :=
    hbelow.verdict c (mem_forestSubtrees_iff.mpr ⟨c, hc, c.self_mem_subtrees⟩)
  simp [table, holdsByTable?_node hown hchild, label]

/-- A table tells rightly as long as no two nodes share a key. -/
theorem table_tells (key : α → κ) (p : Tree α → Bool) :
    (table key p).Tells p (fun ts ↦ (forestKeys key ts).Nodup) (Learns key p) where
  admits_head h := by
    rw [forestKeys_cons, List.nodup_append'] at h
    exact h.1
  admits_tail h := by
    rw [forestKeys_cons, List.nodup_append'] at h
    exact h.2.1
  admits_children h := by
    rw [forestKeys_node, List.nodup_cons] at h
    exact h.2
  nil _ := ⟨by simp [forestSubtrees], fun _ _ ↦ rfl⟩
  cons hkeys hfirst hrest := hfirst.cons hkeys hrest
  node hkeys hbelow := ⟨_, hbelow.leave hkeys, hbelow.node hkeys⟩

end Search

/-- A keyed search finds what a search finds, and no entry is missing, if no two nodes share a
key. -/
theorem keyedSearch_eq [DecidableEq κ] {key : α → κ} {t : Tree α} (p : Tree α → Bool)
    (hkeys : (t.subtrees.map fun u ↦ key u.label).Nodup) :
    t.keyedSearch key p = some (t.search p) := by
  have hforest : (forestKeys key [t]).Nodup := by
    rwa [forestKeys, forestSubtrees_singleton]
  obtain ⟨after, hlearns, hrun⟩ := (Search.table_tells key p).exists_run hforest []
  have hroot : after.lookup (key t.label) = some (t.holdsWithin p) :=
    hlearns.verdict t (by simpa using t.self_mem_subtrees)
  rw [keyedSearch, hrun, search_eq]
  simp [hroot]

-- The entry of a child under the key of its parent hides that the parent satisfies the property.
example :
    let t : Tree Nat := .node 0 [.node 0 []]
    let p : Tree Nat → Bool := fun u ↦ !u.children.isEmpty
    (t.search p).holds = true ∧ (t.keyedSearch id p).map Search.holds = some false := by
  decide +kernel

end Tree

namespace CodeTree

open ClientBoundary.Tree

/-- **A search comes out as the recursion over the tree.** In a tree with distinct ordinals the
search that keeps its verdicts in a table by ordinals misses no entry and finds what the search of
the tree finds. It holds exactly when some node satisfies the property. It examines every node once,
in the order of a walk, which is pre-order. It matches every node that has a satisfying node at or
below it once, and no other node, in post-order. -/
theorem search_by_ordinals {t : CodeTree} (hids : t.HasDistinctIds) (p : CodeTree → Bool) :
    ∃ found, t.keyedSearch Node.id p = some found ∧ t.search p = found ∧
      (found.holds = true ↔ ∃ u ∈ t.subtrees, p u = true) ∧
      found.visited = t.walk ∧ t.walk = t.subtrees ∧ found.visited.Nodup ∧
      found.matched = t.postorder.filter (fun u ↦ u.subtrees.any p) ∧ found.matched.Nodup ∧
      ∀ u, u ∈ found.matched ↔ u ∈ t.subtrees ∧ ∃ v ∈ u.subtrees, p v = true := by
  have hnodes : t.subtrees.Nodup := List.Nodup.of_map _ hids
  have hpost : t.postorder.Nodup := t.postorder_perm_subtrees.nodup_iff.mpr hnodes
  refine ⟨t.search p, keyedSearch_eq p hids, rfl, ?_, ?_, t.walk_eq_subtrees, ?_, ?_, ?_, ?_⟩
  · rw [search_holds, holdsWithin_iff]
  · rw [search_eq, walk_eq_subtrees]
  · rw [search_eq]
    exact hnodes
  · rw [search_eq]
    rfl
  · rw [search_eq]
    exact hpost.filter _
  · intro u
    rw [mem_search_matched, holdsWithin_iff]

/-- The identifiers of a statement and of an export: each is matched before what stands around it,
and the root comes last. -/
theorem search_by_ordinals_identifiers :
    ∃ program found,
      ofSource (OneLine.parser [.mention "a", .exportDefault "b"]) .tsx
        (OneLine.source [.mention "a", .exportDefault "b"]) = .ok program ∧
      program.HasDistinctIds ∧
      program.keyedSearch Node.id (fun u ↦ u.label.kind == .identifier) = some found ∧
      found.holds = true ∧ found.visited = program.walk ∧
      found.visited.map (fun u ↦ u.label.id) = [0, 1, 2, 3, 4, 5, 6, 7, 8] ∧
      found.matched.map (fun u ↦ u.label.id) = [2, 1, 7, 4, 0] := by
  obtain ⟨program, hprogram, hfound⟩ := exists_ok_of_toOption
    (x := ofSource (OneLine.parser [.mention "a", .exportDefault "b"]) .tsx
      (OneLine.source [.mention "a", .exportDefault "b"]))
    (f := fun program ↦
      let found := program.search fun u ↦ u.label.kind == .identifier
      (found.holds, found.visited.map (fun u ↦ u.label.id),
        found.matched.map (fun u ↦ u.label.id)))
    (b := (true, [0, 1, 2, 3, 4, 5, 6, 7, 8], [2, 1, 7, 4, 0])) (by decide +kernel)
  have hids := hasDistinctIds_of_ofSource hprogram
  obtain ⟨found, hkeyed, rfl, -, hvisited, -⟩ :=
    search_by_ordinals hids fun u ↦ u.label.kind == .identifier
  simp only [Prod.mk.injEq] at hfound
  exact ⟨program, _, hprogram, hids, hkeyed, hfound.1, hvisited, hfound.2.1, hfound.2.2⟩

end CodeTree

end ClientBoundary
