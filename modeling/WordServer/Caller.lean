import WordServer.Message.Basic
import WordServer.Wire.Frame

/-!
# Calling a server

The other side of a session: a caller writes requests, numbered from zero in the order they are
made, and notifications, which take no number.
-/

namespace WordServer

/-- The number of the next request, and what has been sent. -/
structure Caller where
  layout : Json.Layout := .compact
  next : Nat := 0
  /-- The messages, last first. -/
  sent : List Message := []
  deriving Repr

namespace Caller

/-- The bytes that the messages have put on the stream, each in a frame of its own. -/
def written (caller : Caller) : List UInt8 :=
  caller.sent.reverse.flatMap fun message =>
    Wire.writeFrame (Text.Utf8.encode (message.write caller.layout))

/-- Sends a message. -/
def send (caller : Caller) (message : Message) : Caller :=
  { caller with sent := message :: caller.sent }

/-- Makes a request and gives its identifier. -/
def request (caller : Caller) (method : String) (params : Option Json) : RequestId × Caller :=
  let id := RequestId.number caller.next
  (id, { caller with next := caller.next + 1 }.send (.request { id, method, params }))

/-- Sends a notification. -/
def notify (caller : Caller) (method : String) (params : Option Json) : Caller :=
  caller.send (.notification { method, params })

end Caller

end WordServer
