/-!
# Sorted names

The distinct texts of a list in the order of their code points.
-/

namespace ClientBoundary.Text

/-- Puts a text into an increasing list, unless it is there. -/
def insertDistinct (text : String) : List String → List String
  | [] => [text]
  | other :: rest =>
    if text < other then text :: other :: rest
    else if text = other then other :: rest
    else other :: insertDistinct text rest

/-- The distinct members of a list in increasing order. -/
def sortedDistinct (texts : List String) : List String :=
  texts.foldr insertDistinct []

@[simp] theorem mem_insertDistinct {text other : String} {texts : List String} :
    other ∈ insertDistinct text texts ↔ other = text ∨ other ∈ texts := by
  induction texts with
  | nil => simp [insertDistinct]
  | cons t ts ih =>
    unfold insertDistinct
    split
    · simp
    · split
      · rename_i h
        subst h
        simp
      · simp only [List.mem_cons, ih]
        exact ⟨fun h ↦ by rcases h with h | h | h <;> simp [h],
          fun h ↦ by rcases h with h | h | h <;> simp [h]⟩

@[simp] theorem mem_sortedDistinct {text : String} {texts : List String} :
    text ∈ sortedDistinct texts ↔ text ∈ texts := by
  induction texts with
  | nil => simp [sortedDistinct]
  | cons t ts ih =>
    have hfold : sortedDistinct (t :: ts) = insertDistinct t (sortedDistinct ts) := rfl
    simp [hfold, ih]

end ClientBoundary.Text
