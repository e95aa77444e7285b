import WordServer.Text.Cut
import WordServer.Wire.Charset
import WordServer.Wire.Frame

/-!
# Header lines

A header line ends with carriage return and line feed, is ASCII, and holds a name and a value with a
colon between. Names are compared without regard to case and outer blanks; only the length and the
type of the content matter, and of a repeated line the last counts.
-/

namespace WordServer.Wire

/-- The longest header line that is read, with its end. -/
def lineLimit : Nat := 8192

/-- What the header lines have said so far. -/
structure Header where
  length : Option Nat
  contentType : Option String
  deriving DecidableEq, Repr

namespace Header

/-- Before the first line. -/
def empty : Header := ⟨none, none⟩

/-- A header with one more line. -/
def withField (header : Header) (name value : List Char) : Except Fault Header :=
  if name = "content-length".toList then
    match Text.readBelow Text.countBound value with
    | some length => .ok { header with length := some length }
    | none => .error (.invalidContentLength (String.ofList value))
  else if name = "content-type".toList then
    .ok { header with contentType := some (String.ofList value) }
  else .ok header

/-- A header with one more line, given without its end. -/
def withLine (header : Header) (line : List UInt8) : Except Fault Header :=
  if line.all Charset.isAscii then
    let text := Charset.byNumber line
    match Text.cutFirst ':' text with
    | some (name, value) => header.withField (Text.lower (Text.trim name)) (Text.trim value)
    | none => .error (.missingColon (String.ofList text))
  else .error .nonAsciiHeader

end Header

/-- A line without its end, from its bytes in reverse. -/
def lineBody : List UInt8 → Except Fault (List UInt8)
  | 10 :: 13 :: rest => .ok rest.reverse
  | 10 :: _ => .error .missingCarriageReturn
  | _ => .error .truncatedHeader

end WordServer.Wire
