import WordServer.Toml.Scalar
import WordServer.Toml.Strings

/-!
# Reading a settings file

A file is lines: comments, headers that open a table, and pairs of a key and a value. A value may
itself hold values, at most 79 deep; the nesting that is still allowed is the argument on which the
reader recurses. The result is the table of the whole file, or nothing if any line is malformed or
says again what another has said.
-/

namespace WordServer.Toml

open Text (Reads)

/-! ## Ends of lines -/

/-- The text behind a comment, if there is one. -/
def skipComment : List Char → List Char
  | '#' :: rest => rest.dropWhile isPlain
  | cs => cs

/-- The text behind the end of a line, or of the file. -/
def lineEnd? : List Char → Option (List Char)
  | [] => some []
  | cs => newLine? cs

/-- The text behind a line on which only spaces and a comment are left. -/
def restOfLine? (cs : List Char) : Option (List Char) :=
  lineEnd? (skipComment (skipSpace cs))

/-- The text behind spaces, comments and line ends. Every turn takes a character, so `room`, which
starts as the text itself, is used up only when the text is. -/
def skipLines : (room : List Char) → List Char → List Char
  | [], cs => cs
  | _ :: room, cs =>
    let cs := skipSpace cs
    match newLine? (skipComment cs) with
    | some rest => skipLines room rest
    | none => cs

/-- The text behind spaces, comments and line ends. -/
def skipGap (cs : List Char) : List Char :=
  skipLines cs cs

/-! ## Keys -/

/-- The characters of a key without quotes. -/
def isBareKey (c : Char) : Bool :=
  c.isAlphanum || c == '-' || c == '_'

/-- One part of a key, with spaces around it. -/
def keyPart : Reads String := fun cs =>
  let cs := skipSpace cs
  let part : Option (List Char × List Char) := match lineString cs with
    | some part => some part
    | none =>
      match cs.span isBareKey with
      | ([], _) => none
      | part => some part
  part.map fun (name, rest) => (String.ofList name, skipSpace rest)

/-- How many parts a key may have, and how deep values may nest, and one more. -/
def depthLimit : Nat := 80

/-- The parts of a key after the first, each behind a dot. -/
def moreKeyParts : (room : Nat) → Reads (List String)
  | 0, _ => none
  | room + 1, '.' :: rest => do
    let (part, rest) ← keyPart rest
    let (parts, rest) ← moreKeyParts room rest
    return (part :: parts, rest)
  | _ + 1, cs => some ([], cs)

/-- A key: the path of its parts, and the last one. -/
def key : Reads (List String × String) := fun cs => do
  let (first, rest) ← keyPart cs
  let (parts, rest) ← moreKeyParts depthLimit rest
  if depthLimit ≤ parts.length + 1 then none
  else
    match (first :: parts).getLast? with
    | some last => return (((first :: parts).dropLast, last), rest)
    | none => none

/-! ## Values -/

/-- A value that is a single word; a date and a time may have a space between. -/
def word : Reads Toml := fun cs =>
  let (first, rest) := cs.span isWordPart
  match rest with
  | ' ' :: behind =>
    let (second, rest') := behind.span isWordPart
    if isDate first && isZonedTime second then some (.moment, rest')
    else (scalar? first).map fun value => (value, rest)
  | _ => (scalar? first).map fun value => (value, rest)

/-- A value that holds no other. -/
def simpleValue : Reads Toml := fun cs =>
  match cs with
  | '"' :: _ | '\'' :: _ =>
    (anyString cs).map fun (content, rest) => (.string (String.ofList content), rest)
  | _ => word cs

/-- The items of an array up to its closing bracket; a comma may stand behind the last. `done` holds
the items before, last first, and `room` starts as the text itself. -/
def arrayRest (item : Reads Toml) : (room : List Char) → (done : List Toml) → Reads (List Toml)
  | [], _, _ => none
  | _ :: room, done, cs =>
    match skipGap cs with
    | ']' :: rest => some (done.reverse, rest)
    | cs => do
      let (value, rest) ← item cs
      match skipGap rest with
      | ']' :: rest => return ((value :: done).reverse, rest)
      | ',' :: rest => arrayRest item room (value :: done) rest
      | _ => none

/-- A pair of a key and a value. -/
def pair (value : Reads Toml) : Reads ((List String × String) × Toml) := fun cs => do
  let (name, rest) ← key cs
  match rest with
  | '=' :: rest =>
    let (value, rest) ← value (skipSpace rest)
    return ((name, value), rest)
  | _ => none

/-- The pairs of a table in braces up to its closing brace, each added to `done`; `room` starts as
the text itself. -/
def inlineRest (value : Reads Toml) : (room : List Char) → (done : Table) → Reads Table
  | [], _, _ => none
  | _ :: room, done, cs => do
    let (((path, name), value'), rest) ← pair value cs
    let done ← done.addPair path name value'
    match skipSpace rest with
    | '\x7d' :: rest => return (done, rest)
    | ',' :: rest => inlineRest value room done rest
    | _ => none

/-- A table in braces, behind its opening brace. -/
def inlineTable (value : Reads Toml) : Reads Table := fun cs =>
  match skipSpace cs with
  | '\x7d' :: rest => some (⟨.inline, []⟩, rest)
  | _ => inlineRest value cs ⟨.inline, []⟩ cs

/-- A value in which arrays and tables in braces nest at most `depth` deep. -/
def value : (depth : Nat) → Reads Toml
  | 0, cs => simpleValue cs
  | depth + 1, cs =>
    match cs with
    | '[' :: rest =>
      (arrayRest (value depth) rest [] rest).map fun (items, rest) =>
        (.array items, rest)
    | '\x7b' :: rest =>
      (inlineTable (value depth) rest).map fun (made, rest) => (made.toToml, rest)
    | _ => simpleValue cs

/-! ## Files -/

/-- The table of the lines read so far, and the path of the table that the next pairs belong to. -/
structure Draft where
  root : Table
  current : List String

namespace Draft

/-- Takes a pair. -/
def addPair (draft : Draft) (path : List String) (name : String) (value : Toml) :
    Option Draft :=
  (draft.root.update false (Table.addPair path name value) draft.current).map fun root =>
    { draft with root }

/-- Takes a header. -/
def openTable (draft : Draft) (path : List String) (name : String) : Option Draft :=
  (draft.root.openTable path name).map fun root => ⟨root, path ++ [name]⟩

/-- Takes a header in double brackets. -/
def openElement (draft : Draft) (path : List String) (name : String) : Option Draft :=
  (draft.root.openElement path name).map fun root => ⟨root, path ++ [name]⟩

end Draft

/-- Takes the first line, or what a value makes of several, and gives the text behind it. -/
def statement (draft : Draft) : Reads Draft := fun cs =>
  match cs with
  | '[' :: '[' :: rest => do
    let ((path, name), rest) ← key rest
    match rest with
    | ']' :: ']' :: rest => return (← draft.openElement path name, ← restOfLine? rest)
    | _ => none
  | '[' :: rest => do
    let ((path, name), rest) ← key rest
    match rest with
    | ']' :: rest => return (← draft.openTable path name, ← restOfLine? rest)
    | _ => none
  | _ => do
    let (((path, name), value), rest) ← pair (value (depthLimit - 1)) cs
    return (← draft.addPair path name value, ← restOfLine? rest)

/-- Takes lines up to the end of the file. Every line takes a character, so `room`, which starts as
the text itself, is used up only when the text is. -/
def statements : (room : List Char) → Draft → List Char → Option Draft
  | [], draft, cs => if cs.isEmpty then some draft else none
  | _ :: room, draft, cs =>
    match skipGap cs with
    | [] => some draft
    | '#' :: rest => if (rest.dropWhile isPlain).isEmpty then some draft else none
    | cs => do
      let (draft, rest) ← statement draft cs
      statements room draft rest

/-- The text without a mark of its byte order. -/
def dropMark : List Char → List Char
  | '\uFEFF' :: rest => rest
  | cs => cs

/-- The table of a file. -/
def read? (cs : List Char) : Option Toml :=
  let cs := dropMark cs
  (statements cs ⟨.empty, []⟩ cs).map (·.root.toToml)

end WordServer.Toml
