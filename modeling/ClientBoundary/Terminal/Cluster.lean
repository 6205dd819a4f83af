import ClientBoundary.Terminal.CellWidth

/-!
# Clusters of characters

A line is folded and cropped between clusters, never inside one. A cluster is a character that
takes cells with everything that belongs to it: the characters after it that take none, the
selector that widens it, and whatever a joiner ties to it. Characters without a cell at the very
beginning have nothing to belong to and make a cluster of no cells.

## Main declarations

* `Terminal.Cluster`, `Terminal.clusters`: a line as clusters.
* `Terminal.flatMap_chars_clusters`: the clusters of a line hold its characters in order.
-/

namespace ClientBoundary.Terminal

/-- Characters that stay together and the number of cells they take. -/
structure Cluster where
  chars : List Char
  cells : Nat
  deriving DecidableEq, Repr

/-- A cluster with further characters, widened by some cells. -/
def Cluster.extend (cluster : Cluster) (cs : List Char) (more : Nat) : Cluster :=
  ⟨cluster.chars ++ cs, cluster.cells + more⟩

/-- The cluster that a character starts. -/
def Cluster.ofChar (c : Char) : Cluster :=
  ⟨[c], if c = joiner ∨ c = selector then 0 else cellWidth c⟩

/-- The character that a selector after `c` would widen. -/
def widenable (c : Char) : Option Char :=
  if c = joiner ∨ c = selector ∨ cellWidth c = 0 then none else some c

/-- The clusters of a line from the cluster under way on, `last` being its character that takes
cells and has not been widened. -/
def clustersFrom (current : Cluster) (last : Option Char) : List Char → List Cluster
  | [] => [current]
  | [c] =>
    if c = joiner then [current.extend [c] 0]
    else if c = selector then [current.extend [c] (last.any isWidened).toNat]
    else if cellWidth c = 0 then [current.extend [c] 0]
    else [current, .ofChar c]
  | c :: d :: cs =>
    if c = joiner then clustersFrom (current.extend [c, d] 0) last cs
    else if c = selector then
      if last.any isWidened then clustersFrom (current.extend [c] 1) none (d :: cs)
      else clustersFrom (current.extend [c] 0) last (d :: cs)
    else if cellWidth c = 0 then clustersFrom (current.extend [c] 0) last (d :: cs)
    else current :: clustersFrom (.ofChar c) (some c) (d :: cs)

/-- The clusters of a line. -/
def clusters : List Char → List Cluster
  | [] => []
  | c :: cs => clustersFrom (.ofChar c) (widenable c) cs

private theorem flatMap_chars_clustersFrom (current : Cluster) (last : Option Char)
    (cs : List Char) : (clustersFrom current last cs).flatMap (·.chars) = current.chars ++ cs := by
  fun_induction clustersFrom current last cs <;>
    simp_all [Cluster.extend, Cluster.ofChar]

/-- The clusters of a line hold its characters in order. -/
theorem flatMap_chars_clusters (line : List Char) :
    (clusters line).flatMap (·.chars) = line := by
  cases line with
  | nil => rfl
  | cons c cs => simp [clusters, flatMap_chars_clustersFrom, Cluster.ofChar]

end ClientBoundary.Terminal
