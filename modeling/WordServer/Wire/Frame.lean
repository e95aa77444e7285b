import WordServer.Wire.MediaType
import WordServer.Text.Decimal
import WordServer.Text.Utf8

/-!
# Frames

A frame is a block of header lines, an empty line, and as many bytes of content as the header says.
Frames are written with the length as their only header. A frame that cannot be read has a cause,
and every cause a text.
-/

namespace WordServer.Wire

/-- A payload and what its header says about it. -/
structure Frame where
  /-- The announced length of the content. -/
  length : Nat
  contentType : Option String
  content : List UInt8
  deriving DecidableEq, Repr

/-- The media type of the content. -/
def Frame.mediaType (frame : Frame) : MediaType :=
  MediaType.ofHeader frame.contentType

/-- Why no frame can be read. -/
inductive Fault where
  | truncatedHeader
  | missingCarriageReturn
  | nonAsciiHeader
  | missingColon (line : String)
  | missingContentLength
  | invalidContentLength (value : String)
  | contentTooLarge (length limit : Nat)
  | shortRead (expected actual : Nat)
  /-- The stream itself failed. -/
  | stream (reason : String)
  deriving DecidableEq, Repr

/-- The cause in words. -/
def Fault.message : Fault → String
  | .truncatedHeader => "Connection closed in the middle of a frame header"
  | .missingCarriageReturn => "Header line is not terminated by CRLF"
  | .nonAsciiHeader => "Header line is not ASCII"
  | .missingColon line => "There is no colon in header: " ++ line
  | .missingContentLength => "Missing Content-Length header"
  | .invalidContentLength value => "Invalid Content-Length: " ++ value
  | .contentTooLarge length limit =>
    "Frame of " ++ toString length ++ " bytes exceeds the " ++ toString limit ++ " byte limit"
  | .shortRead expected actual =>
    "Failed to read frame content: expected " ++ toString expected ++ " bytes, got " ++
      toString actual
  | .stream reason => reason

/-- The bytes of a text. -/
def bytesOf (text : String) : List UInt8 :=
  Text.Utf8.encode text.toList

/-- The header that is written before content of a length. -/
def writtenHeader (length : Nat) : List UInt8 :=
  bytesOf "Content-Length: " ++ Text.Utf8.encode (Text.decimal length) ++ [13, 10, 13, 10]

/-- The bytes of a frame around a payload. -/
def writeFrame (content : List UInt8) : List UInt8 :=
  writtenHeader content.length ++ content

/-- The content limit where none is set. -/
def defaultContentLimit : Nat := 64 * 1024 * 1024

end WordServer.Wire
