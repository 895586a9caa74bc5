/-!
# Cutting texts

The pieces of a text between separators. There is one piece more than there are separators, and the
pieces with the separators between them are the text.
-/

namespace Playground.Text

/-- The pieces of a text between separators. -/
def pieces (separator : Char) : List Char → List (List Char)
  | [] => [[]]
  | c :: rest =>
    match pieces separator rest with
    | [] => []
    | p :: ps => if c = separator then [] :: p :: ps else (c :: p) :: ps

end Playground.Text
