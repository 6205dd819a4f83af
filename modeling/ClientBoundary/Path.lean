import ClientBoundary.Failure
import ClientBoundary.Text.Fields

/-!
# Paths

A path is a root and the parts below it. Empty parts and single dots are dropped when a path is
read; double dots stay. Two leading slashes are a root of their own, any other number of them is
the ordinary root. The last part is the path's name, which divides into a stem and a suffix at its
last dot unless that dot is the first or the last character.

Source: SPEC_FULL.md, §4.6, the resolved paths and sibling names.

## Main declarations

* `Path.ofString`, `Path.toString`: reading and writing.
* `Path.name`, `Path.stem`, `Path.suffix`, `Path.withName`.
* `Path.resolve`: the absolute path, with double dots taken out.
-/

namespace ClientBoundary

open Text

/-- Where a path starts. -/
inductive Path.Root where
  | relative
  | single
  | double
  deriving DecidableEq, Repr

/-- A path: its root and the parts below it. -/
structure Path where
  root : Path.Root
  parts : List String
  deriving DecidableEq, Repr

namespace Path

/-- How a root is written. -/
def Root.text : Root → String
  | .relative => ""
  | .single => "/"
  | .double => "//"

/-- The root that a number of leading slashes stands for. -/
def Root.ofSlashes : Nat → Root
  | 0 => .relative
  | 2 => .double
  | _ => .single

/-- The path that a text names. -/
def ofString (text : String) : Path where
  root := .ofSlashes (text.toList.takeWhile (· == '/')).length
  parts := (fields (· == '/') text.toList).filterMap fun part ↦
    if part = [] ∨ part = ['.'] then none else some (String.ofList part)

/-- How a path is written; the empty path is a single dot. -/
protected def toString (path : Path) : String :=
  let text := path.root.text ++ "/".intercalate path.parts
  if text = "" then "." else text

instance : ToString Path := ⟨Path.toString⟩

/-- The last part of a path, empty if there is none. -/
def name (path : Path) : String :=
  path.parts.getLast?.getD ""

/-- A name divided at its last dot into stem and suffix. -/
def divideName (cs : List Char) : List Char × List Char :=
  let extension := (cs.reverse.takeWhile (· != '.')).reverse
  match cs.reverse.dropWhile (· != '.') with
  | _ :: c :: stem => if extension = [] then (cs, []) else ((c :: stem).reverse, '.' :: extension)
  | _ => (cs, [])

/-- The name up to its suffix. -/
def stem (path : Path) : String :=
  String.ofList (divideName path.name.toList).1

/-- The end of the name from its last dot on. -/
def suffix (path : Path) : String :=
  String.ofList (divideName path.name.toList).2

/-- The path without its last part. -/
def parent (path : Path) : Path :=
  { path with parts := path.parts.dropLast }

/-- Whether a text can stand as one part of a path. -/
def isPart (name : String) : Bool :=
  let path := ofString name
  name.toList.getLast? != some '/' && path.root == .relative && path.parts.length == 1

/-- The path with another last part. -/
def withName (path : Path) (name : String) : Except Failure Path :=
  if path.name = "" then .error (.emptyName path.toString)
  else if isPart name then .ok { path with parts := path.parts.dropLast ++ [name] }
  else .error (.invalidName name)

/-- Takes double dots out of `parts`, starting from the directory `base`. -/
def descend (base parts : List String) : List String :=
  parts.foldl (fun at_ part ↦ if part = ".." then at_.dropLast else at_ ++ [part]) base

/-- The absolute path that `path` names from the directory `directory`. -/
def resolve (directory path : Path) : Path where
  root := .single
  parts := descend (if path.root = .relative then directory.parts else []) path.parts

theorem divideName_append (cs : List Char) : (divideName cs).1 ++ (divideName cs).2 = cs := by
  have hsplit := List.takeWhile_append_dropWhile (p := (· != '.')) (l := cs.reverse)
  unfold divideName
  dsimp only
  split
  · rename_i d c stem heq
    split
    · simp
    · have hd : d = '.' := by
        have := List.head?_dropWhile_not (· != '.') cs.reverse
        simpa [heq] using this
      subst hd
      rw [heq] at hsplit
      simpa using congrArg List.reverse hsplit
  · simp

end Path

end ClientBoundary
