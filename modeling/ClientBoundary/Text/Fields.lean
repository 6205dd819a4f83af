/-!
# Fields between separators

Cutting a list of characters at every separator. The fields exclude the separators, so there is
always one field more than there are separators.
-/

namespace ClientBoundary.Text

/-- Puts a character in front of the first of some fields. -/
def consField (c : Char) : List (List Char) → List (List Char)
  | [] => [[c]]
  | field :: fields => (c :: field) :: fields

/-- The fields of `cs` between the characters that satisfy `isSeparator`. -/
def fields (isSeparator : Char → Bool) : List Char → List (List Char)
  | [] => [[]]
  | c :: cs =>
    if isSeparator c then [] :: fields isSeparator cs
    else consField c (fields isSeparator cs)

end ClientBoundary.Text
