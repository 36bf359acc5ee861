/-!
# Pieces of a text

* `pieces`: the pieces of a text between separators. There is one piece more
  than there are separators, and some may be empty.
-/

namespace Metering.Text

/-- The pieces of a text between the separators. -/
def pieces (separator : Char) : List Char → List (List Char)
  | [] => [[]]
  | c :: s =>
    match pieces separator s with
    | [] => [[c]]
    | piece :: more => if c = separator then [] :: piece :: more else (c :: piece) :: more

end Metering.Text
