import WordServer.Json.Basic

/-!
# The words of a JSON reader

What a JSON reader says of a text or a value that it cannot read is its own business. It stands in
the data of error replies and decides nothing, so it is an ambient parameter, about which nothing is
assumed.
-/

namespace WordServer.Json

/-- What a JSON reader says of what it cannot read. -/
class Wording where
  /-- Why a text is not JSON. -/
  notJson (text : List Char) : String
  /-- Why the params of a method cannot be read. -/
  misfit (method : String) (params : Json) : String

/-- The words of the program itself. -/
instance Wording.plain : Wording where
  notJson _ := "malformed text"
  misfit _ _ := "the params do not have the expected shape"

end WordServer.Json
