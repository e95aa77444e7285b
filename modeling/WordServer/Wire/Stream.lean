/-!
# Byte streams

What a peer sends arrives as chunks, between which reading may fail. A reader sees a sequence of
events: each byte, and each failure at its place among the bytes. The end of the sequence is the end
of the stream.
-/

namespace WordServer.Wire

/-- What a stream holds at one place. -/
inductive Event where
  | byte (b : UInt8)
  /-- Reading fails here with a reason, and may go on behind. -/
  | fault (reason : String)
  deriving DecidableEq, Repr

/-- What one read of the underlying stream gives. -/
inductive Chunk where
  | bytes (content : List UInt8)
  | fault (reason : String)
  deriving DecidableEq, Repr

/-- The events of a chunk. -/
def Chunk.events : Chunk → List Event
  | .bytes content => content.map .byte
  | .fault reason => [.fault reason]

/-- A stream as it is delivered. -/
abbrev Delivery := List Chunk

/-- The events of a delivery: where it was cut into chunks does not show. -/
def Delivery.events (delivery : Delivery) : List Event :=
  delivery.flatMap Chunk.events

/-- The events of bytes that arrive without failure. -/
def eventsOf (bytes : List UInt8) : List Event :=
  bytes.map .byte

end WordServer.Wire
