import WordServer.Text.Blank
import WordServer.Text.Caseless
import WordServer.Text.Cut

/-!
# Media types

The `Content-Type` of a frame, without regard to letter case and outer blanks. The charset is the
first `charset` parameter that has a value once blanks and quotes are removed; `utf8` means `utf-8`,
and what is missing takes the default.
-/

namespace WordServer.Wire

/-- A media type and the charset of its text. -/
structure MediaType where
  essence : String
  charset : String
  deriving DecidableEq, Repr

namespace MediaType

/-- The essence of a frame that gives none. -/
def defaultEssence : String := "application/vscode-jsonrpc"

/-- The charset of a frame that gives none. -/
def defaultCharset : String := "utf-8"

instance : Inhabited MediaType := ⟨⟨defaultEssence, defaultCharset⟩⟩

/-- The value of a `charset` parameter, without blanks and quotes. -/
def charsetOf? (parameter : List Char) : Option (List Char) :=
  (Text.afterStart "charset=".toList (Text.trim parameter)).map fun value =>
    Text.dropEdgesWhile (· == '"') (Text.trim value)

/-- The first charset that the parameters name. -/
def firstCharset (parameters : List (List Char)) : List Char :=
  ((parameters.filterMap charsetOf?).find? (!·.isEmpty)).getD defaultCharset.toList

/-- The one other name under which a charset is known here. -/
def canonicalCharset (name : List Char) : List Char :=
  if name = "utf8".toList then defaultCharset.toList else name

/-- The media type of a header value. -/
def ofText (value : List Char) : MediaType :=
  let value := Text.lower (Text.trim value)
  if value.isEmpty then default
  else
    match value.splitOn ';' with
    | [] => default
    | first :: parameters =>
      let essence := Text.trim first
      { essence := if essence.isEmpty then defaultEssence else String.ofList essence
        charset := String.ofList (canonicalCharset (firstCharset parameters)) }

/-- The media type of a header that may be missing. -/
def ofHeader (value : Option String) : MediaType :=
  match value with
  | none => default
  | some value => ofText value.toList

end MediaType

end WordServer.Wire
