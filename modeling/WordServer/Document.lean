import WordServer.Text.Alphanumeric

/-!
# Documents

A document is a text in lines that end with a line feed, before which one carriage return belongs to
the line's end. A position is a line and a column in UTF-16 code units; it is in the document unless
the line is past the last, the column past the line's end or between two halves of a character.
-/

namespace WordServer

/-- The number of UTF-16 code units of a character. -/
def unitsOf (c : Char) : Nat :=
  if c.toNat < 0x10000 then 1 else 2

namespace Text

/-- A line without the carriage return that belongs to its end. -/
def dropReturn (line : List Char) : List Char :=
  if line.getLast? = some '\r' then line.dropLast else line

/-- Whether a text is at the end of a line: before a line feed, before a carriage return that
belongs to one or to the end of the text, or at the end of the text. -/
def atLineEnd : List Char → Bool
  | [] => true
  | '\n' :: _ => true
  | ['\r'] => true
  | '\r' :: '\n' :: _ => true
  | _ => false

/-- Splits a text `column` units behind its start, if that is inside its first line; `before` holds
what came earlier, last first. -/
def splitColumn : (before : List Char) → (column : Nat) → List Char →
    Option (List Char × List Char)
  | before, 0, cs => some (before.reverse, cs)
  | _, _ + 1, [] => none
  | before, column + 1, c :: rest =>
    if atLineEnd (c :: rest) then none
    else if unitsOf c ≤ column + 1 then
      splitColumn (c :: before) (column + 1 - unitsOf c) rest
    else none

/-- Splits a text at a line and a column; `before` holds what came earlier, last first. -/
def splitPosition : (before : List Char) → (line column : Nat) → List Char →
    Option (List Char × List Char)
  | before, 0, column, cs => splitColumn before column cs
  | _, _ + 1, _, [] => none
  | before, line + 1, column, c :: rest =>
    if c = '\n' then splitPosition (c :: before) line column rest
    else splitPosition (c :: before) (line + 1) column rest

/-- The longest end of a text that is made of word characters. -/
def lastWord (cs : List Char) : List Char :=
  (cs.reverse.takeWhile isWordChar).reverse

end Text

/-- A place in a document: line and UTF-16 column, both from zero. -/
structure Position where
  line : Nat
  character : Nat
  deriving DecidableEq, Repr

/-- A text and the version its author gave it. -/
structure Document where
  text : String
  version : Int
  deriving DecidableEq, Repr

namespace Document

/-- A line without its end. -/
def line? (document : Document) (n : Nat) : Option String :=
  (document.text.toList.splitOn '\n')[n]?.map fun line => String.ofList (Text.dropReturn line)

/-- The text before and after a position that is in the document. -/
def window? (document : Document) (position : Position) : Option (String × String) :=
  (Text.splitPosition [] position.line position.character document.text.toList).map fun parts =>
    (String.ofList parts.1, String.ofList parts.2)

/-- The part of a word that stands before a position. -/
def wordBefore? (document : Document) (position : Position) : Option String :=
  (document.window? position).map fun parts => String.ofList (Text.lastWord parts.1.toList)

/-- The document with another text, and another version if one is given. -/
def replace (document : Document) (text : String) (version : Option Int) : Document :=
  { text, version := version.getD document.version }

end Document

end WordServer
