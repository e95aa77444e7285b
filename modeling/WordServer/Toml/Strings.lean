import WordServer.Text.Decimal
import WordServer.Text.Reads

/-!
# Strings of a settings file

Strings in double quotes have escapes, strings in single quotes have none. In triple quotes a string
may span lines, each of which ends with a plain line feed in the value; a line end right behind the
opening quotes is dropped, and so are a backslash at the end of a line and all blanks behind it. Up
to two quotes may stand before the closing ones.
-/

namespace WordServer.Toml

open Text (Reads)

/-- Characters that may stand in a comment or, but for quotes and backslash, in a string. -/
def isPlain (c : Char) : Bool :=
  c == '\t' || (0x20 ≤ c.toNat && c.toNat != 0x7F)

/-- The characters between tokens of a line. -/
def isSpace (c : Char) : Bool :=
  c == ' ' || c == '\t'

/-- The text from its first character that is no space. -/
def skipSpace (cs : List Char) : List Char :=
  cs.dropWhile isSpace

/-- The text behind a line end. -/
def newLine? : List Char → Option (List Char)
  | '\n' :: rest => some rest
  | '\r' :: '\n' :: rest => some rest
  | _ => none

/-- The character of a one-letter escape. -/
def shortEscape? (c : Char) : Option Char :=
  if c = '"' then some '"'
  else if c = '\\' then some '\\'
  else if c = 'b' then some (Char.ofNat 8)
  else if c = 't' then some '\t'
  else if c = 'n' then some '\n'
  else if c = 'f' then some (Char.ofNat 12)
  else if c = 'r' then some '\r'
  else none

/-- The character whose number hexadecimal digits give. -/
def numbered? (digits : List Char) : Option Char := do
  let value := (← digits.mapM Text.hexValue?).foldl (fun n d => 16 * n + d) 0
  if value.isValidChar then some (Char.ofNat value) else none

/-- The rest of a string in double quotes; `done` holds what came before, last first. -/
def basicRest (done : List Char) : Reads (List Char)
  | [] => none
  | '"' :: rest => some (done.reverse, rest)
  | '\\' :: 'u' :: a :: b :: c :: d :: rest =>
    match numbered? [a, b, c, d] with
    | some c => basicRest (c :: done) rest
    | none => none
  | '\\' :: 'U' :: a :: b :: c :: d :: e :: f :: g :: h :: rest =>
    match numbered? [a, b, c, d, e, f, g, h] with
    | some c => basicRest (c :: done) rest
    | none => none
  | '\\' :: e :: rest =>
    match shortEscape? e with
    | some c => basicRest (c :: done) rest
    | none => none
  | c :: rest => if isPlain c && c != '\\' then basicRest (c :: done) rest else none

/-- The rest of a string in single quotes. -/
def literalRest (cs : List Char) : Option (List Char × List Char) :=
  match cs.span (fun c => isPlain c && c != '\'') with
  | (content, '\'' :: rest) => some (content, rest)
  | _ => none

/-- Whether a line ends behind spaces. -/
def endsLine (cs : List Char) : Bool :=
  (newLine? (skipSpace cs)).isSome

/-- The rest of a string in three double quotes. While `trimming`, blanks behind a backslash at the
end of a line are dropped. -/
def basicBlockRest (trimming : Bool) (done : List Char) : Reads (List Char)
  | [] => none
  | '"' :: '"' :: '"' :: '"' :: '"' :: rest => some (('"' :: '"' :: done).reverse, rest)
  | '"' :: '"' :: '"' :: '"' :: rest => some (('"' :: done).reverse, rest)
  | '"' :: '"' :: '"' :: rest => some (done.reverse, rest)
  | '"' :: rest => basicBlockRest false ('"' :: done) rest
  | '\n' :: rest => basicBlockRest trimming (if trimming then done else '\n' :: done) rest
  | '\r' :: '\n' :: rest => basicBlockRest trimming (if trimming then done else '\n' :: done) rest
  | '\\' :: 'u' :: a :: b :: c :: d :: rest =>
    match numbered? [a, b, c, d] with
    | some c => basicBlockRest false (c :: done) rest
    | none => none
  | '\\' :: 'U' :: a :: b :: c :: d :: e :: f :: g :: h :: rest =>
    match numbered? [a, b, c, d, e, f, g, h] with
    | some c => basicBlockRest false (c :: done) rest
    | none => none
  | '\\' :: e :: rest =>
    if endsLine (e :: rest) then basicBlockRest true done (e :: rest)
    else
      match shortEscape? e with
      | some c => basicBlockRest false (c :: done) rest
      | none => none
  | c :: rest =>
    if trimming && isSpace c then basicBlockRest true done rest
    else if isPlain c && c != '\\' then basicBlockRest false (c :: done) rest
    else none

/-- The rest of a string in three single quotes. -/
def literalBlockRest (done : List Char) : Reads (List Char)
  | [] => none
  | '\'' :: '\'' :: '\'' :: '\'' :: '\'' :: rest => some (('\'' :: '\'' :: done).reverse, rest)
  | '\'' :: '\'' :: '\'' :: '\'' :: rest => some (('\'' :: done).reverse, rest)
  | '\'' :: '\'' :: '\'' :: rest => some (done.reverse, rest)
  | '\n' :: rest => literalBlockRest ('\n' :: done) rest
  | '\r' :: '\n' :: rest => literalBlockRest ('\n' :: done) rest
  | c :: rest => if isPlain c then literalBlockRest (c :: done) rest else none

/-- The text behind a line end, if there is one at the front. -/
def dropNewLine (cs : List Char) : List Char :=
  (newLine? cs).getD cs

/-- A string on one line. -/
def lineString : Reads (List Char)
  | '"' :: rest => basicRest [] rest
  | '\'' :: rest => literalRest rest
  | _ => none

/-- A string. -/
def anyString : Reads (List Char)
  | '"' :: '"' :: '"' :: rest => basicBlockRest false [] (dropNewLine rest)
  | '\'' :: '\'' :: '\'' :: rest => literalBlockRest [] (dropNewLine rest)
  | cs => lineString cs

end WordServer.Toml
