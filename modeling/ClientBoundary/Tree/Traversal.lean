import ClientBoundary.Tree.Search

/-!
# Going through a tree with a stack

Two ways through a tree that do not follow its recursion. A walk takes the next node off a stack and
puts its children there in its place. A keyed search is a search that remembers what it knows of a
node in a table under a key of its label, and settles a node by looking up its own entry and, if
that does not decide it, the entries of its children.

Source: SPEC_FULL.md, §4.1, the post-order fold `fold_any`.

## Main declarations

* `Tree.walk`: the nodes of a tree in the order in which a walk meets them.
* `Tree.keyedSearch`: a search with a table, or `none` if an entry is missing when it is read.
-/

namespace ClientBoundary.Tree

variable {α κ : Type}

/-! ### Walking -/

theorem forestSize_append (ts us : List (Tree α)) :
    forestSize (ts ++ us) = forestSize ts + forestSize us := by
  induction ts with
  | nil => simp [forestSize]
  | cons t ts ih => simp only [List.cons_append, forestSize, ih, Nat.add_assoc]

/-- The nodes that a walk meets when these trees are on its stack, the top first. -/
def walkFrom : List (Tree α) → List (Tree α)
  | [] => []
  | .node a ts :: stack => .node a ts :: walkFrom (ts ++ stack)
  termination_by stack => forestSize stack
  decreasing_by
    simp only [forestSize_append, forestSize, size]
    omega

/-- The nodes of a tree in the order in which a walk meets them. -/
def walk (t : Tree α) : List (Tree α) :=
  walkFrom [t]

/-! ### Searching with a table -/

namespace Search

variable [DecidableEq κ]

/-- Whether a node holds, by its own entry or else by the first entry of a child that says so. -/
def holdsByTable? (key : α → κ) (known : List (κ × Bool)) (t : Tree α) : Option Bool := do
  if ← known.lookup (key t.label) then
    return true
  t.children.anyM fun child ↦ known.lookup (key child.label)

/-- Remembers by a table of what is known of the nodes under their keys, the newest entry first. -/
def table (key : α → κ) (p : Tree α → Bool) : Memory Option α (List (κ × Bool)) where
  enter t known := (key t.label, p t) :: known
  leave t known := do
    let holds ← holdsByTable? key known t
    return (holds, (key t.label, holds) :: known)

end Search

/-- Searches a tree for the nodes that satisfy a property, with a table of what is known of the
nodes by their keys. -/
def keyedSearch [DecidableEq κ] (key : α → κ) (p : Tree α → Bool) (t : Tree α) :
    Option (Search α) := do
  let s ← Search.run (Search.table key p) [.enter t] ⟨[], [], []⟩
  let holds ← s.known.lookup (key t.label)
  return ⟨holds, s.visited.reverse, s.matched.reverse⟩

end ClientBoundary.Tree
