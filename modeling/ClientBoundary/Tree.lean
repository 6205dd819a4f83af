/-!
# Labelled trees

Finitely branching trees with a label at every node, and the two orders in which their nodes are
listed. A node is listed with everything below it, so that a property of it may look at its
children.

## Main declarations

* `Tree`: a label and a list of children.
* `Tree.subtrees`: the nodes in pre-order.
* `Tree.postorder`: the nodes, children before their parents.
* `Tree.size`: the number of nodes.
* `Tree.induction`: induction with a hypothesis for every child.
-/

namespace ClientBoundary

/-- A tree with labels in `α`. -/
inductive Tree (α : Type) where
  | node (label : α) (children : List (Tree α))

namespace Tree

variable {α : Type}

/-- The label of the root. -/
def label : Tree α → α
  | .node a _ => a

/-- The subtrees directly below the root. -/
def children : Tree α → List (Tree α)
  | .node _ ts => ts

mutual

/-- The nodes of a tree in pre-order, each with its subtree. -/
def subtrees : Tree α → List (Tree α)
  | .node a ts => .node a ts :: forestSubtrees ts

/-- The nodes of several trees in pre-order. -/
def forestSubtrees : List (Tree α) → List (Tree α)
  | [] => []
  | t :: ts => t.subtrees ++ forestSubtrees ts

end

mutual

/-- The nodes of a tree, children before their parents, each with its subtree. -/
def postorder : Tree α → List (Tree α)
  | .node a ts => forestPostorder ts ++ [.node a ts]

/-- The nodes of several trees, children before their parents. -/
def forestPostorder : List (Tree α) → List (Tree α)
  | [] => []
  | t :: ts => t.postorder ++ forestPostorder ts

end

mutual

/-- The number of nodes of a tree. -/
def size : Tree α → Nat
  | .node _ ts => forestSize ts + 1

/-- The number of nodes of several trees. -/
def forestSize : List (Tree α) → Nat
  | [] => 0
  | t :: ts => t.size + forestSize ts

end

/-- Induction on trees, with a hypothesis for every child of the root. -/
theorem induction {motive : Tree α → Prop}
    (node : ∀ a ts, (∀ t ∈ ts, motive t) → motive (.node a ts)) (t : Tree α) : motive t :=
  @Tree.rec α motive (fun ts ↦ ∀ t ∈ ts, motive t)
    node (by simp) (fun t ts ht hts ↦ by simpa using ⟨ht, hts⟩) t

@[simp] theorem node_label_children (t : Tree α) : Tree.node t.label t.children = t := by
  cases t
  rfl

theorem forestSubtrees_eq_flatMap (ts : List (Tree α)) :
    forestSubtrees ts = ts.flatMap subtrees := by
  induction ts with
  | nil => rfl
  | cons t ts ih => simp [forestSubtrees, ih]

theorem forestPostorder_eq_flatMap (ts : List (Tree α)) :
    forestPostorder ts = ts.flatMap postorder := by
  induction ts with
  | nil => rfl
  | cons t ts ih => simp [forestPostorder, ih]

end Tree

end ClientBoundary
