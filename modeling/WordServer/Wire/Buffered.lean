import WordServer.Wire.Reader

/-!
# Reading frames through a buffer

The reader as it works on a delivery: chunks are taken one at a time into a buffer of limited
capacity, header lines are searched for in the buffer, and long content goes past it. It reads the
same frames as `readFrame` does from the events of the delivery.
-/

namespace WordServer.Wire

/-- A buffer and what has not been delivered to it. -/
structure Buffered where
  capacity : Nat
  buffer : List UInt8
  pending : Delivery

namespace Buffered

/-- A buffer of at least one byte before a delivery. -/
def ofDelivery (capacity : Nat) (delivery : Delivery) : Buffered :=
  ⟨max 1 capacity, [], delivery⟩

/-- The events that are still to be read. -/
def events (source : Buffered) : List Event :=
  eventsOf source.buffer ++ Delivery.events source.pending

/-- At most `most` bytes of the next chunk that has any, and the delivery behind them; no bytes at
the end. -/
def pull (most : Nat) : Delivery → Except String (List UInt8) × Delivery
  | [] => (.ok [], [])
  | .fault reason :: rest => (.error reason, rest)
  | .bytes [] :: rest => pull most rest
  | .bytes content :: rest =>
    let behind := content.drop most
    (.ok (content.take most), if behind.isEmpty then rest else .bytes behind :: rest)

/-- The buffer with something in it, unless the stream is at its end. -/
def fill (source : Buffered) : Except String Unit × Buffered :=
  if source.buffer.isEmpty then
    match pull source.capacity source.pending with
    | (.error reason, pending) => (.error reason, { source with pending })
    | (.ok buffer, pending) => (.ok (), { source with buffer, pending })
  else (.ok (), source)

/-- Takes a line from the bytes of a buffer: those up to and with the first line feed, but at most
`room`. They go before `line`, last first; then come whether the line has ended, the room that is
left, and the bytes behind. -/
def takeLine (line : List UInt8) : (room : Nat) → List UInt8 →
    List UInt8 × Bool × Nat × List UInt8
  | 0, bytes => (line, true, 0, bytes)
  | room, [] => (line, false, room, [])
  | room + 1, b :: rest =>
    if b = 10 then (b :: line, true, room, rest) else takeLine (b :: line) room rest

/-- Reads a line of at most `room` bytes, buffer by buffer; `line` holds what came before, last byte
first, and so does the result. Every turn takes a byte, so `turns`, which starts at the room, is
never used up. -/
def readLine : (turns : Nat) → (line : List UInt8) → (room : Nat) → Buffered →
    Except String (List UInt8) × Buffered
  | 0, line, _, source => (.ok line, source)
  | turns + 1, line, room, source =>
    match source.fill with
    | (.error reason, source) => (.error reason, source)
    | (.ok (), source) =>
      if source.buffer.isEmpty then (.ok line, source)
      else
        let (line, ended, room, buffer) := takeLine line room source.buffer
        let source := { source with buffer }
        if ended then (.ok line, source) else readLine turns line room source

/-- Reads some of the `most` bytes that are wanted: past an empty buffer when they would fill it. -/
def readSome (most : Nat) (source : Buffered) : Except String (List UInt8) × Buffered :=
  if source.buffer.isEmpty && source.capacity ≤ most then
    match pull most source.pending with
    | (.error reason, pending) => (.error reason, { source with pending })
    | (.ok taken, pending) => (.ok taken, { source with pending })
  else
    match source.fill with
    | (.error reason, source) => (.error reason, source)
    | (.ok (), source) =>
      (.ok (source.buffer.take most), { source with buffer := source.buffer.drop most })

/-- Reads `missing` more bytes of content; `done` holds those before, last first. Every turn takes a
byte, so `turns`, which starts at the missing bytes, is never used up. -/
def readContent (expected : Nat) : (turns missing : Nat) → (done : List UInt8) → Buffered →
    Except Fault (List UInt8) × Buffered
  | 0, _, done, source => (.ok done.reverse, source)
  | turns + 1, missing, done, source =>
    if missing = 0 then (.ok done.reverse, source)
    else
      match source.readSome missing with
      | (.error reason, source) => (.error (.stream reason), source)
      | (.ok [], source) => (.error (.shortRead expected done.length), source)
      | (.ok taken, source) =>
        readContent expected turns (missing - taken.length) (taken.reverse ++ done) source

/-- Reads header lines up to the empty one; every line takes a byte, and `lines` starts above the
number of bytes. -/
def readHeader : (lines : Nat) → (started : Bool) → Header → Buffered → HeaderReading × Buffered
  | 0, _, _, source => (.failed .truncatedHeader, source)
  | lines + 1, started, header, source =>
    match source.readLine lineLimit [] lineLimit with
    | (.error reason, source) => (.failed (.stream reason), source)
    | (.ok [], source) => (if started then .failed .truncatedHeader else .absent, source)
    | (.ok line, source) =>
      match lineBody line with
      | .error fault => (.failed fault, source)
      | .ok [] => (.complete header, source)
      | .ok body =>
        match header.withLine body with
        | .error fault => (.failed fault, source)
        | .ok header => readHeader lines true header source

/-- More lines than there can be in what is still to be read. -/
def lineBound (source : Buffered) : Nat :=
  source.events.length + 1

/-- Reads the next frame whose content is no longer than `limit`, from a source that holds fewer
lines than `lines`. -/
def readFrameWithin (lines limit : Nat) (source : Buffered) : Reading × Buffered :=
  match source.readHeader lines false .empty with
  | (.absent, source) => (.finished, source)
  | (.failed fault, source) => (.failed fault, source)
  | (.complete header, source) =>
    match announcedLength limit header with
    | .error fault => (.failed fault, source)
    | .ok length =>
      match source.readContent length length length [] with
      | (.error fault, source) => (.failed fault, source)
      | (.ok content, source) => (.frame ⟨length, header.contentType, content⟩, source)

/-- Reads the next frame whose content is no longer than `limit`. -/
def readFrame (limit : Nat) (source : Buffered) : Reading × Buffered :=
  source.readFrameWithin source.lineBound limit

/-- The results of several reads from a source that holds fewer lines than `lines`. -/
def readFramesWithin (lines limit : Nat) : (count : Nat) → Buffered → List Reading × Buffered
  | 0, source => ([], source)
  | count + 1, source =>
    let (reading, source) := source.readFrameWithin lines limit
    let (readings, source) := readFramesWithin lines limit count source
    (reading :: readings, source)

/-- The results of several reads, which go on after faults and the end. -/
def readFrames (limit count : Nat) (source : Buffered) : List Reading × Buffered :=
  source.readFramesWithin source.lineBound limit count

/-- The results of reads up to the first fault or the end, from a source that holds fewer lines than
`lines`. -/
def readAllFrom (lines limit : Nat) : (room : Nat) → Buffered → List Reading
  | 0, _ => []
  | room + 1, source =>
    match source.readFrameWithin lines limit with
    | (.frame frame, source) => .frame frame :: readAllFrom lines limit room source
    | (reading, _) => [reading]

/-- The results of reads up to the first fault or the end. Every frame takes a line, so there are no
more reads than lines. -/
def readAll (limit : Nat) (source : Buffered) : List Reading :=
  readAllFrom source.lineBound limit source.lineBound source

end Buffered

end WordServer.Wire
