import ClientBoundary.Tree

/-!
# Searching a tree

One pass over a tree that finds which nodes satisfy a property or have a node below them that
does. The pass keeps an explicit stack of tasks, so it needs no room for the depth of the tree. A
node is examined when it is entered, and whether it holds is known when it is left, after all its
children. How a search remembers what it knows of the nodes in between is left open.

Source: SPEC_FULL.md, §4.1, the post-order fold `fold_any`.

## Main declarations

* `Tree.Search`: what a search finds.
* `Tree.Search.Memory`, `Tree.Search.run`: the loop of a search over what it remembers.
* `Tree.search`: the search of a tree for a property.
-/

namespace ClientBoundary.Tree

variable {α σ : Type} {m : Type → Type} [Monad m]

/-- What a search of a tree finds. -/
structure Search (α : Type) where
  /-- Whether some node satisfies the property. -/
  holds : Bool
  /-- The nodes in the order in which they are examined. -/
  visited : List (Tree α)
  /-- The nodes that satisfy the property or stand above one that does, in the order in which
  this becomes known. -/
  matched : List (Tree α)

namespace Search

/-- A task of a search: a node to examine, or a node all of whose children are settled. -/
inductive Task (α : Type) where
  | enter (t : Tree α)
  | leave (t : Tree α)

/-- The number of steps that a task may take. -/
def Task.weight : Task α → Nat
  | .enter t => 2 * t.size
  | .leave _ => 1

/-- The tasks of examining several trees. -/
def enterAll (ts : List (Tree α)) : List (Task α) :=
  ts.map .enter

/-- The number of steps that several tasks may take. -/
def totalWeight : List (Task α) → Nat
  | [] => 0
  | task :: tasks => task.weight + totalWeight tasks

theorem totalWeight_enterAll_append (ts : List (Tree α)) (tasks : List (Task α)) :
    totalWeight (enterAll ts ++ tasks) = 2 * forestSize ts + totalWeight tasks := by
  induction ts with
  | nil => simp [enterAll, forestSize]
  | cons t ts ih =>
    simp only [enterAll, List.map_cons, List.cons_append] at ih ⊢
    simp only [totalWeight, ih, Task.weight, forestSize]
    omega

/-- How a search remembers what it knows of the nodes: what it puts down when it examines a node,
and how it finds out from that whether a node holds. -/
structure Memory (m : Type → Type) (α σ : Type) where
  enter : Tree α → σ → σ
  leave : Tree α → σ → m (Bool × σ)

/-- A search under way: what it knows, and in reverse the nodes that were examined and those that
were matched. -/
structure State (α σ : Type) where
  known : σ
  visited : List (Tree α)
  matched : List (Tree α)

/-- Examines a node. -/
def State.enter (memory : Memory m α σ) (t : Tree α) (s : State α σ) : State α σ :=
  { s with known := memory.enter t s.known, visited := t :: s.visited }

/-- Settles a node. -/
def State.leave (memory : Memory m α σ) (t : Tree α) (s : State α σ) : m (State α σ) := do
  let (holds, known) ← memory.leave t s.known
  return { s with known := known, matched := if holds then t :: s.matched else s.matched }

/-- Carries out tasks. -/
@[specialize] def run (memory : Memory m α σ) : List (Task α) → State α σ → m (State α σ)
  | [], s => return s
  | .enter (.node a ts) :: tasks, s =>
    run memory (enterAll ts ++ .leave (.node a ts) :: tasks) (s.enter memory (.node a ts))
  | .leave t :: tasks, s => do
    let s ← s.leave memory t
    run memory tasks s
  termination_by tasks => totalWeight tasks
  decreasing_by
    · simp only [totalWeight_enterAll_append, totalWeight, Task.weight, size]
      omega
    · simp [totalWeight, Task.weight]

/-- Raises the innermost of several marks. -/
def raise (mark : Bool) : List Bool → List Bool
  | [] => []
  | outer :: marks => (mark || outer) :: marks

/-- Remembers by marks. They say of the nodes entered and not yet left, innermost first, and of the
surroundings of the tree, whether a node that satisfies the property has been met there. A node
that is left hands its mark on to the node above it. -/
def marks (p : Tree α → Bool) : Memory Id α (List Bool) where
  enter t marks := p t :: marks
  leave _
    | [] => (false, [])
    | own :: marks => (own, raise own marks)

end Search

/-- Searches a tree for the nodes that satisfy a property. -/
def search (p : Tree α → Bool) (t : Tree α) : Search α :=
  let s := Id.run (Search.run (Search.marks p) [.enter t] ⟨[false], [], []⟩)
  ⟨s.known.headD false, s.visited.reverse, s.matched.reverse⟩

end ClientBoundary.Tree
