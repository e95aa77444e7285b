import WordServer.Json.Basic
import WordServer.Json.Shortest
import WordServer.Text.Decimal

/-!
# Writing JSON

Two layouts of the same tokens: compact, without any blank, and indented, with two blanks for each
level, one item a line and `": "` after a name. In strings only the quote, the backslash and the
controls below the space are escaped.
-/

namespace WordServer.Json

/-- How a character stands in a string. -/
def escapedChar (c : Char) : List Char :=
  if c = '"' then ['\\', '"']
  else if c = '\\' then ['\\', '\\']
  else if 0x20 ≤ c.toNat then [c]
  else if c = '\n' then ['\\', 'n']
  else if c = '\r' then ['\\', 'r']
  else if c = '\t' then ['\\', 't']
  else if c.toNat = 8 then ['\\', 'b']
  else if c.toNat = 12 then ['\\', 'f']
  else
    let digits := Text.hexadecimal c.toNat
    ['\\', 'u'] ++ List.replicate (4 - digits.length) '0' ++ digits

/-- A string in quotes. -/
def quoteChars (cs : List Char) : List Char :=
  '"' :: cs.flatMap escapedChar ++ ['"']

/-- A string in quotes. -/
def quote (s : String) : List Char :=
  quoteChars s.toList

mutual

/-- The text of a value without blanks. -/
def compact : Json → List Char
  | .null => ['n', 'u', 'l', 'l']
  | .bool true => ['t', 'r', 'u', 'e']
  | .bool false => ['f', 'a', 'l', 's', 'e']
  | .int n => Text.signedDecimal n
  | .float x => x.text
  | .str s => quote s
  | .arr [] => ['[', ']']
  | .arr (item :: rest) => '[' :: (compact item ++ compactItems rest)
  | .obj [] => ['\x7b', '\x7d']
  | .obj ((name, value) :: rest) =>
    '\x7b' :: (quote name ++ ':' :: (compact value ++ compactMembers rest))

/-- The items after the first, and the closing bracket. -/
def compactItems : List Json → List Char
  | [] => [']']
  | item :: rest => ',' :: (compact item ++ compactItems rest)

/-- The members after the first, and the closing brace. -/
def compactMembers : List (String × Json) → List Char
  | [] => ['\x7d']
  | (name, value) :: rest => ',' :: (quote name ++ ':' :: (compact value ++ compactMembers rest))

end

/-- The start of a line at a level. -/
def newLine (level : Nat) : List Char :=
  '\n' :: List.replicate (2 * level) ' '

mutual

/-- The text of a value with one item a line, for a value that stands at a level. -/
def indented (level : Nat) : Json → List Char
  | .null => compact .null
  | .bool b => compact (.bool b)
  | .int n => compact (.int n)
  | .float x => compact (.float x)
  | .str s => compact (.str s)
  | .arr [] => compact (.arr [])
  | .arr (item :: rest) =>
    '[' :: (newLine (level + 1) ++ (indented (level + 1) item ++ indentedItems level rest))
  | .obj [] => compact (.obj [])
  | .obj ((name, value) :: rest) =>
    '\x7b' :: (newLine (level + 1) ++ (quote name ++
      ':' :: ' ' :: (indented (level + 1) value ++ indentedMembers level rest)))

/-- The items after the first, and the closing bracket on its own line. -/
def indentedItems (level : Nat) : List Json → List Char
  | [] => newLine level ++ [']']
  | item :: rest =>
    ',' :: (newLine (level + 1) ++ (indented (level + 1) item ++ indentedItems level rest))

/-- The members after the first, and the closing brace on its own line. -/
def indentedMembers (level : Nat) : List (String × Json) → List Char
  | [] => newLine level ++ ['\x7d']
  | (name, value) :: rest =>
    ',' :: (newLine (level + 1) ++ (quote name ++
      ':' :: ' ' :: (indented (level + 1) value ++ indentedMembers level rest)))

end

/-- The two layouts of JSON text. -/
inductive Layout where
  | compact
  | indented
  deriving DecidableEq, Repr

/-- The layout, indented if that is asked for; what is indented stays so. -/
def Layout.indentIf (layout : Layout) (asked : Bool) : Layout :=
  if asked then .indented else layout

/-- The text of a value in a layout. -/
def write : Layout → Json → List Char
  | .compact, value => value.compact
  | .indented, value => value.indented 0

/-- The text of a value without blanks, as a string. -/
def toText (value : Json) : String :=
  String.ofList value.compact

end WordServer.Json
