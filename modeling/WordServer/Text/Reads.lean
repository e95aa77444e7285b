/-!
# Reading from the front of a text

The shape that the readers of structured text share: what was read and the text behind it, or
nothing.
-/

namespace WordServer.Text

/-- Reads something from the front of a text and gives the rest, or refuses. -/
abbrev Reads (α : Type) := List Char → Option (α × List Char)

end WordServer.Text
