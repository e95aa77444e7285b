import WordServer.Dispatch.Router
import WordServer.Message.Decode
import WordServer.Wire.Reader

/-!
# Sessions

A session serves one stream: it reads a frame, answers its message, and goes on until the stream
ends, a frame cannot be read, or the protocol's state asks to end. Messages are handled one after
the other, so replies leave in the order of their requests. A payload that is no message is answered
with an error and changes nothing. A session runs once; running it again has no effect.
-/

namespace WordServer

/-- Where a session stands. -/
inductive SessionPhase where
  | opened
  | serving
  | closed
  deriving DecidableEq, Repr

/-- What a session has counted. -/
structure SessionStats where
  frames : Nat := 0
  replies : Nat := 0
  rejected : Nat := 0
  deriving DecidableEq, Repr

/-- One stream, the state of the protocol on it, and what has been answered. -/
structure Session (σ : Type) where
  peer : String
  limit : Nat
  protocol : Protocol σ
  state : σ
  input : List Wire.Event
  /-- The replies, last first. -/
  sent : List Message := []
  /-- The bytes that have been put on the stream. -/
  written : List UInt8 := []
  phase : SessionPhase := .opened
  stats : SessionStats := {}

namespace Session

variable {σ : Type}

/-- What a frame is answered with whose payload is no message. -/
def rejection [Json.Wording] (frame : Wire.Frame) (cause : Malformed) : ErrorReply :=
  cause.errorReply (notJsonReason frame.mediaType.charset frame.content)

variable [Json.Wording]

/-- What a frame is answered with, whether its payload was rejected, and the state after it. -/
def answer (protocol : Protocol σ) (frame : Wire.Frame) (state : σ) :
    Option Message × Bool × σ :=
  match decodeMessage frame.mediaType.charset frame.content with
  | .ok message =>
    let (reply, state) := protocol.router.dispatch message state
    (reply, false, state)
  | .error cause => (some (.error (rejection frame cause)), true, state)

/-- Answers a frame that has been read. -/
def handle (session : Session σ) (frame : Wire.Frame) (rest : List Wire.Event) : Session σ :=
  let (reply, rejected, state) := answer session.protocol frame session.state
  { session with
    state
    input := rest
    sent := reply.toList ++ session.sent
    written := session.written ++ reply.toList.flatMap fun reply => Wire.writeFrame reply.encode
    stats :=
      { frames := session.stats.frames + 1
        replies := session.stats.replies + (if reply.isSome then 1 else 0)
        rejected := session.stats.rejected + (if rejected then 1 else 0) } }

/-- What one turn of a session comes to. -/
inductive Turn (σ : Type) where
  /-- A frame was answered and the session goes on. -/
  | goesOn (session : Session σ)
  | ended (result : Except Wire.Fault Unit) (session : Session σ)

/-- Reads a frame and answers it. -/
def turn (session : Session σ) : Turn σ :=
  match Wire.readFrame session.limit session.input with
  | (.finished, rest) => .ended (.ok ()) { session with input := rest }
  | (.failed fault, rest) => .ended (.error fault) { session with input := rest }
  | (.frame frame, rest) =>
    let session := session.handle frame rest
    if session.protocol.finished session.state then .ended (.ok ()) session else .goesOn session

/-- Takes turns until one ends the session. Every turn reads an event, so `turns`, which starts
above the number of events, is never used up. -/
def serve : (turns : Nat) → Session σ → Except Wire.Fault Unit × Session σ
  | 0, session => (.ok (), session)
  | turns + 1, session =>
    match session.turn with
    | .goesOn session => serve turns session
    | .ended result session => (result, session)

/-- Serves the stream, unless the session is closed. -/
def run (session : Session σ) : Except Wire.Fault Unit × Session σ :=
  if session.phase = .closed then (.ok (), session)
  else
    let (result, session) := serve (session.input.length + 1) { session with phase := .serving }
    (result, { session with phase := .closed })

end Session

/-- Why a session failed, in words. -/
def sessionFaultMessage (fault : Wire.Fault) : String :=
  "Framing error: " ++ fault.message

end WordServer
