/-!
# Distinguished encoding

Nested data as bytes: an element is a tag, a length and a content, and the content of a sequence is
elements again. A length under 128 is one byte; a longer one is written in as few bytes as hold it,
behind a byte that counts them.
-/

namespace WordServer.Credentials.Der

/-- A tag and what stands under it. -/
structure Element where
  tag : UInt8
  content : List UInt8
  deriving DecidableEq, Repr

/-- The tag of a whole number. -/
def integer : UInt8 := 0x02

/-- The tag of a row of bits. -/
def bitString : UInt8 := 0x03

/-- The tag of a row of bytes. -/
def octetString : UInt8 := 0x04

/-- The tag of a sequence of elements. -/
def sequence : UInt8 := 0x30

/-- The most bytes that a length takes. -/
def longestLength : Nat := 4

/-- The length at the start of bytes, and what follows it. -/
def length? : List UInt8 → Option (Nat × List UInt8)
  | [] => none
  | first :: rest =>
    if first < 0x80 then some (first.toNat, rest)
    else
      let count := first.toNat - 0x80
      let digits := rest.take count
      let length := digits.foldl (fun n b => n * 256 + b.toNat) 0
      if count = 0 ∨ longestLength < count ∨ digits.length < count then none
      else if length < 0x80 ∨ digits.head? = some 0 then none
      else some (length, rest.drop count)

/-- The element at the start of bytes, and what follows it. -/
def element? : List UInt8 → Option (Element × List UInt8)
  | [] => none
  | tag :: rest =>
    match length? rest with
    | none => none
    | some (length, rest) =>
      if rest.length < length then none else some (⟨tag, rest.take length⟩, rest.drop length)

/-- The elements that bytes are made of, which are no more than the bytes of `room`; `done` are
those before, last first. -/
def elementsFrom (done : List Element) : (room : List UInt8) → List UInt8 → Option (List Element)
  | _, [] => some done.reverse
  | [], _ => none
  | _ :: room, bytes =>
    match element? bytes with
    | none => none
    | some (element, rest) => elementsFrom (element :: done) room rest

/-- The tags of the elements of a sequence that takes up all bytes. -/
def sequenceTags? (bytes : List UInt8) : Option (List UInt8) := do
  let (element, rest) ← element? bytes
  if element.tag = sequence ∧ rest.isEmpty then
    return (← elementsFrom [] element.content element.content).map Element.tag
  else none

end WordServer.Credentials.Der
