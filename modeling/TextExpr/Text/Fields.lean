/-!
# Fields of a text

The stretches of a text between occurrences of a separator. There is always one stretch more than
there are separators.
-/

namespace TextExpr

/-- The stretches of a text between separators. -/
def fields (separator : Char) : List Char → List (List Char)
  | [] => [[]]
  | c :: rest =>
    if c = separator then [] :: fields separator rest
    else
      match fields separator rest with
      | [] => [[c]]
      | first :: others => (c :: first) :: others

/-- The fields of a text as strings. -/
def textFields (separator : Char) (text : String) : List String :=
  (fields separator text.toList).map String.ofList

end TextExpr
