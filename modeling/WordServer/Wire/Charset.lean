import WordServer.Text.Utf8

/-!
# Charsets

The charsets in which a message may come: UTF-8, its ASCII part, and Latin-1, in which every byte is
the character with its number.
-/

namespace WordServer.Wire

/-- A way to read bytes as text. -/
inductive Charset where
  | utf8
  | ascii
  | latin1
  deriving DecidableEq, Repr

namespace Charset

/-- The charset with a name. -/
def ofName? (name : String) : Option Charset :=
  if name = "utf-8" then some .utf8
  else if name = "ascii" ∨ name = "us-ascii" then some .ascii
  else if name = "iso-8859-1" ∨ name = "latin1" ∨ name = "latin-1" then some .latin1
  else none

/-- Whether a byte stands for itself in ASCII. -/
def isAscii (b : UInt8) : Bool :=
  b < 0x80

/-- The text of bytes whose numbers are code points. -/
def byNumber (bytes : List UInt8) : List Char :=
  bytes.map fun b => Char.ofNat b.toNat

/-- The text of bytes, or why there is none. -/
def decode : Charset → List UInt8 → Except String (List Char)
  | .utf8, bytes => (Text.Utf8.decode bytes).mapError Text.Utf8.Fault.message
  | .ascii, bytes =>
    if bytes.all isAscii then .ok (byNumber bytes) else .error "non-ASCII byte in content"
  | .latin1, bytes => .ok (byNumber bytes)

end Charset

end WordServer.Wire
