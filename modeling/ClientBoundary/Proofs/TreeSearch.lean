import ClientBoundary.Tree.Search
import Mathlib.Data.List.Basic

/-!
# What a search finds

A search works off a stack of tasks, yet what it finds can be said without the stack: it examines
the nodes in pre-order, and it matches those nodes of the post-order that have a satisfying node at
or below them. The stack enters through one invariant (`Tree.Search.Settles`): the tasks of
entering several trees, carried out in front of any other tasks, change the two lists in the way
that the trees alone determine. It holds whatever the search remembers by, if that tells rightly of
single nodes.

## Main definitions

* `Tree.holdsWithin`: some node of a tree satisfies a property.
* `Tree.Search.Memory.Tells`: what a search remembers tells which nodes hold.
* `Tree.Search.Settles`: what the tasks of entering several trees do.

## Main results

* `Tree.Search.Memory.Tells.settles`: every admitted tree settles.
* `Tree.search_eq`: the three parts of a search in closed form.
* `Tree.mem_subtrees_iff`: the nodes of a tree in terms of those of its children.
-/

namespace ClientBoundary.Tree

variable {α : Type}

/-! ### The nodes of a tree -/

theorem mem_forestSubtrees_iff {ts : List (Tree α)} {u : Tree α} :
    u ∈ forestSubtrees ts ↔ ∃ t ∈ ts, u ∈ t.subtrees := by
  rw [forestSubtrees_eq_flatMap, List.mem_flatMap]

/-- A node of a tree is its root or a node below one of its children. -/
theorem mem_subtrees_iff {t u : Tree α} :
    u ∈ t.subtrees ↔ u = t ∨ ∃ s ∈ t.children, u ∈ s.subtrees := by
  cases t with
  | node a ts => rw [subtrees, List.mem_cons, mem_forestSubtrees_iff, children]

theorem self_mem_subtrees (t : Tree α) : t ∈ t.subtrees :=
  mem_subtrees_iff.mpr (Or.inl rfl)

theorem mem_subtrees_of_mem_children {t s u : Tree α} (hs : s ∈ t.children)
    (hu : u ∈ s.subtrees) : u ∈ t.subtrees :=
  mem_subtrees_iff.mpr (Or.inr ⟨s, hs, hu⟩)

/-- A node below a node of a tree is a node of the tree. -/
theorem mem_subtrees_trans {t u v : Tree α} (hu : u ∈ t.subtrees) (hv : v ∈ u.subtrees) :
    v ∈ t.subtrees := by
  induction t using induction with
  | node a ts ih =>
    rcases mem_subtrees_iff.mp hu with rfl | ⟨s, hs, hu⟩
    · exact hv
    · exact mem_subtrees_of_mem_children hs (ih s hs hu)

/-- Pre-order and post-order list the same nodes. -/
theorem mem_postorder_iff {t u : Tree α} : u ∈ t.postorder ↔ u ∈ t.subtrees := by
  induction t using induction with
  | node a ts ih =>
    rw [postorder, forestPostorder_eq_flatMap, subtrees, forestSubtrees_eq_flatMap]
    simp only [List.mem_append, List.mem_flatMap, List.mem_cons, List.not_mem_nil, or_false]
    constructor
    · rintro (⟨s, hs, hu⟩ | rfl)
      · exact Or.inr ⟨s, hs, (ih s hs).mp hu⟩
      · exact Or.inl rfl
    · rintro (rfl | ⟨s, hs, hu⟩)
      · exact Or.inr rfl
      · exact Or.inl ⟨s, hs, (ih s hs).mpr hu⟩

/-! ### Satisfying nodes -/

/-- Whether some node of a tree satisfies a property. -/
def holdsWithin (p : Tree α → Bool) (t : Tree α) : Bool :=
  t.subtrees.any p

theorem holdsWithin_iff {p : Tree α → Bool} {t : Tree α} :
    t.holdsWithin p = true ↔ ∃ u ∈ t.subtrees, p u = true :=
  List.any_eq_true

/-- A satisfying node is the root or stands within a child. -/
theorem holdsWithin_node (p : Tree α → Bool) (a : α) (ts : List (Tree α)) :
    (node a ts).holdsWithin p = (p (node a ts) || ts.any (holdsWithin p)) := by
  rw [holdsWithin, subtrees, List.any_cons, forestSubtrees_eq_flatMap, List.any_flatMap]
  rfl

/-! ### Runs of a search -/

namespace Search

section Loop

variable {σ : Type} {m : Type → Type} [Monad m] [LawfulMonad m] {memory : Memory m α σ}
  {p : Tree α → Bool} {Admits : List (Tree α) → Prop} {Leads : List (Tree α) → σ → σ → Prop}

/-- A memory tells rightly which nodes have a satisfying node within, as long as the trees are
admitted: examining several trees leads from what was known before to what is known after, as
`Leads` says, and then a node is settled by its verdict. -/
structure Memory.Tells (memory : Memory m α σ) (p : Tree α → Bool)
    (Admits : List (Tree α) → Prop) (Leads : List (Tree α) → σ → σ → Prop) : Prop where
  admits_head {t ts} : Admits (t :: ts) → Admits [t]
  admits_tail {t ts} : Admits (t :: ts) → Admits ts
  admits_children {a ts} : Admits [.node a ts] → Admits ts
  nil known : Leads [] known known
  cons {t ts before between after} : Admits (t :: ts) → Leads [t] before between →
    Leads ts between after → Leads (t :: ts) before after
  node {a ts before between} : Admits [.node a ts] →
    Leads ts (memory.enter (.node a ts) before) between →
    ∃ after, memory.leave (.node a ts) between = pure ((Tree.node a ts).holdsWithin p, after) ∧
      Leads [.node a ts] before after

/-- Carrying out the tasks of entering `ts`, in front of any others, leads to what `Leads` says,
examines the nodes of `ts` in pre-order and matches those that have a satisfying node within, in
post-order. -/
def Settles (memory : Memory m α σ) (p : Tree α → Bool) (Leads : List (Tree α) → σ → σ → Prop)
    (ts : List (Tree α)) : Prop :=
  ∀ tasks before visited matched, ∃ after, Leads ts before after ∧
    run memory (enterAll ts ++ tasks) ⟨before, visited, matched⟩ =
      run memory tasks ⟨after, (forestSubtrees ts).reverse ++ visited,
        ((forestPostorder ts).filter (holdsWithin p)).reverse ++ matched⟩

omit [LawfulMonad m] in
/-- Several trees settle if each of them does. -/
private theorem Memory.Tells.settles_of_forall (hmemory : memory.Tells p Admits Leads)
    {ts : List (Tree α)} (hts : Admits ts)
    (h : ∀ t ∈ ts, Admits [t] → Settles memory p Leads [t]) : Settles memory p Leads ts := by
  induction ts with
  | nil =>
    intro tasks before visited matched
    exact ⟨before, hmemory.nil before, by simp [enterAll, forestSubtrees, forestPostorder]⟩
  | cons t ts ih =>
    intro tasks before visited matched
    obtain ⟨between, hfirst, hrunFirst⟩ := h t List.mem_cons_self (hmemory.admits_head hts)
      (enterAll ts ++ tasks) before visited matched
    obtain ⟨after, hrest, hrunRest⟩ := ih (hmemory.admits_tail hts)
      (fun u hu ↦ h u (List.mem_cons_of_mem t hu)) tasks between _ _
    refine ⟨after, hmemory.cons hts hfirst hrest, ?_⟩
    change run memory (enterAll [t] ++ (enterAll ts ++ tasks)) _ = _
    rw [hrunFirst, hrunRest]
    simp only [forestSubtrees, forestPostorder, List.append_nil, List.reverse_append,
      List.filter_append, List.append_assoc]

/-- A node settles once its children do: it is examined before them and left after them. -/
private theorem Memory.Tells.settles_node (hmemory : memory.Tells p Admits Leads) {a : α}
    {ts : List (Tree α)} (hnode : Admits [.node a ts]) (hts : Settles memory p Leads ts) :
    Settles memory p Leads [.node a ts] := by
  intro tasks before visited matched
  obtain ⟨between, hbelow, hrun⟩ := hts (.leave (.node a ts) :: tasks)
    (memory.enter (.node a ts) before) (.node a ts :: visited) matched
  obtain ⟨after, hleave, hleads⟩ := hmemory.node hnode hbelow
  refine ⟨after, hleads, ?_⟩
  change run memory (.enter (.node a ts) :: tasks) _ = _
  rw [run, State.enter, hrun, run, State.leave, hleave]
  simp only [pure_bind, forestSubtrees, forestPostorder, subtrees, postorder, List.append_nil,
    List.filter_append, List.filter_singleton]
  cases (Tree.node a ts).holdsWithin p with
  | true => simp
  | false => simp

/-- Every admitted tree settles, by induction on the tree and, at each node, on the list of its
children. -/
theorem Memory.Tells.settles (hmemory : memory.Tells p Admits Leads) {t : Tree α}
    (ht : Admits [t]) : Settles memory p Leads [t] := by
  induction t using Tree.induction with
  | node a ts ih =>
    refine hmemory.settles_node ht (hmemory.settles_of_forall (hmemory.admits_children ht) ?_)
    exact fun t hmem ht ↦ ih t hmem ht

/-- What a search of an admitted tree comes to. -/
theorem Memory.Tells.exists_run (hmemory : memory.Tells p Admits Leads) {t : Tree α}
    (ht : Admits [t]) (before : σ) :
    ∃ after, Leads [t] before after ∧ run memory [.enter t] ⟨before, [], []⟩ =
      pure ⟨after, t.subtrees.reverse, (t.postorder.filter (holdsWithin p)).reverse⟩ := by
  obtain ⟨after, hleads, hrun⟩ := hmemory.settles ht [] before [] []
  refine ⟨after, hleads, ?_⟩
  simpa [enterAll, forestSubtrees, forestPostorder, run] using hrun

end Loop

theorem raise_raise (mark mark' : Bool) (marks : List Bool) :
    raise mark (raise mark' marks) = raise (mark' || mark) marks := by
  cases marks with
  | nil => rfl
  | cons outer marks => simp only [raise, Bool.or_left_comm, Bool.or_assoc]

/-- Marks tell rightly: going through trees raises the innermost mark if some node of them satisfies
the property. -/
theorem marks_tells (p : Tree α → Bool) :
    (marks p).Tells p (fun _ ↦ True)
      fun ts before after ↦ after = raise (ts.any (holdsWithin p)) before where
  admits_head := id
  admits_tail := id
  admits_children := id
  nil marks := by cases marks <;> rfl
  cons := by
    rintro t ts before between after - rfl rfl
    rw [raise_raise, List.any_cons, List.any_cons, List.any_nil, Bool.or_false]
  node := by
    rintro a ts before between - rfl
    have hmark : (ts.any (holdsWithin p) || p (.node a ts)) = (Tree.node a ts).holdsWithin p := by
      rw [holdsWithin_node, Bool.or_comm]
    refine ⟨raise ((Tree.node a ts).holdsWithin p) before, ?_, ?_⟩
    · rw [← hmark]
      rfl
    · rw [List.any_cons, List.any_nil, Bool.or_false]

end Search

/-- A search finds whether some node satisfies the property, examines the nodes in pre-order, and
matches the nodes that have a satisfying node within, children before their parents. -/
theorem search_eq (p : Tree α → Bool) (t : Tree α) :
    t.search p = ⟨t.holdsWithin p, t.subtrees, t.postorder.filter (holdsWithin p)⟩ := by
  obtain ⟨after, rfl, hrun⟩ := (Search.marks_tells p).exists_run (t := t) trivial [false]
  simp [search, hrun, Search.raise]

@[simp] theorem search_holds (p : Tree α → Bool) (t : Tree α) :
    (search p t).holds = t.holdsWithin p := by
  rw [search_eq]

@[simp] theorem mem_search_matched {p : Tree α → Bool} {t u : Tree α} :
    u ∈ (search p t).matched ↔ u ∈ t.subtrees ∧ u.holdsWithin p = true := by
  rw [search_eq, List.mem_filter, mem_postorder_iff]

end ClientBoundary.Tree
