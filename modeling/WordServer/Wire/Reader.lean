import WordServer.Wire.Header
import WordServer.Wire.Stream

/-!
# Reading frames

`readFrame` takes one frame from the front of a sequence of events and gives the events behind it. A
stream that ends before the first byte of a header is finished; anything else that ends early, or is
malformed, is a fault, decided by the first header line that has one. What was read before a fault
stays read.

Room for content is not modelled. A reader that sets the announced length aside before it reads
fails where the machine has no room for that, which a limit past the address space would allow;
`readContent` takes what arrives.
-/

namespace WordServer.Wire

/-- How the reading of a header block ends. -/
inductive HeaderReading where
  /-- There was no byte to read. -/
  | absent
  | complete (header : Header)
  | failed (fault : Fault)
  deriving DecidableEq, Repr

/-- Reads header lines up to the empty one. `line` is the current line so far in reverse, `room` how
many bytes it may still have, `started` whether a line came before it. -/
def readHeader (started : Bool) (line : List UInt8) (room : Nat) (header : Header) :
    List Event → HeaderReading × List Event
  | [] => (if started || !line.isEmpty then .failed .truncatedHeader else .absent, [])
  | .fault reason :: rest => (.failed (.stream reason), rest)
  | .byte b :: rest =>
    if b = 10 ∨ room ≤ 1 then
      match lineBody (b :: line) with
      | .error fault => (.failed fault, rest)
      | .ok [] => (.complete header, rest)
      | .ok body =>
        match header.withLine body with
        | .error fault => (.failed fault, rest)
        | .ok header => readHeader true [] lineLimit header rest
    else readHeader started (b :: line) (room - 1) header rest

/-- Reads exactly `missing` more bytes of content; `done` holds those before, last first. -/
def readContent (expected : Nat) : (missing : Nat) → (done : List UInt8) → List Event →
    Except Fault (List UInt8) × List Event
  | 0, done, events => (.ok done.reverse, events)
  | _ + 1, done, [] => (.error (.shortRead expected done.length), [])
  | _ + 1, _, .fault reason :: rest => (.error (.stream reason), rest)
  | missing + 1, done, .byte b :: rest => readContent expected missing (b :: done) rest

/-- What reading a frame gives. -/
inductive Reading where
  | frame (frame : Frame)
  /-- The stream has ended before a frame. -/
  | finished
  | failed (fault : Fault)
  deriving DecidableEq, Repr

/-- The length that a header block announces, within a limit. -/
def announcedLength (limit : Nat) (header : Header) : Except Fault Nat :=
  match header.length with
  | none => .error .missingContentLength
  | some length => if limit < length then .error (.contentTooLarge length limit) else .ok length

/-- Reads the next frame whose content is no longer than `limit`. -/
def readFrame (limit : Nat) (events : List Event) : Reading × List Event :=
  match readHeader false [] lineLimit .empty events with
  | (.absent, rest) => (.finished, rest)
  | (.failed fault, rest) => (.failed fault, rest)
  | (.complete header, rest) =>
    match announcedLength limit header with
    | .error fault => (.failed fault, rest)
    | .ok length =>
      match readContent length length [] rest with
      | (.error fault, rest) => (.failed fault, rest)
      | (.ok content, rest) => (.frame ⟨length, header.contentType, content⟩, rest)

/-- The results of several reads, which go on after faults and the end. -/
def readFrames (limit : Nat) : (count : Nat) → List Event → List Reading × List Event
  | 0, events => ([], events)
  | count + 1, events =>
    let (reading, rest) := readFrame limit events
    let (readings, rest) := readFrames limit count rest
    (reading :: readings, rest)

/-- The results of reads up to the first fault or the end. Every frame takes an event, so `room`,
the number of events, is never used up. -/
def readAllFrom (limit : Nat) : (room : Nat) → List Event → List Reading
  | 0, _ => []
  | room + 1, events =>
    match readFrame limit events with
    | (.frame frame, rest) => .frame frame :: readAllFrom limit room rest
    | (reading, _) => [reading]

/-- The results of reads up to the first fault or the end. -/
def readAll (limit : Nat) (events : List Event) : List Reading :=
  readAllFrom limit (events.length + 1) events

end WordServer.Wire
