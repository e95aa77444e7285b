import WordServer.Text.Decimal

/-!
# UTF-8

Text as bytes and back. Decoding is a machine that reads one byte at a time and knows how many
continuation bytes are owed and between which bounds the next one has to lie, so overlong forms,
surrogates and values past the last code point are refused at the first byte that rules them out.
A fault names where the faulty sequence starts and how many of its bytes belong together. Text that
is only shown goes on behind a fault, with a replacement for the bytes that belong together.
-/

namespace WordServer.Text.Utf8

/-- Why bytes are not UTF-8. -/
inductive Fault where
  /-- `length` bytes from `index` on begin no character. -/
  | invalid (length index : Nat)
  /-- The bytes end inside a character that starts at `index`. -/
  | incomplete (index : Nat)
  deriving DecidableEq, Repr

/-- The fault in words. -/
def Fault.message : Fault → String
  | .invalid length index =>
    "invalid utf-8 sequence of " ++ toString length ++ " bytes from index " ++ toString index
  | .incomplete index => "incomplete utf-8 byte sequence from index " ++ toString index

/-- A character that has begun: its value so far, the bytes seen and still owed, and the bounds of
the next byte. -/
structure Begun where
  value : Nat
  seen : Nat
  owed : Nat
  low : Nat
  high : Nat
  deriving DecidableEq, Repr

/-- What a first byte begins: a whole character, a longer one, or none. -/
inductive Lead where
  | whole (c : Char)
  | longer (begun : Begun)
  | refused

/-- The character that a first byte begins. -/
def lead (b : Nat) : Lead :=
  if b < 0x80 then .whole (Char.ofNat b)
  else if b < 0xC2 then .refused
  else if b < 0xE0 then .longer ⟨b - 0xC0, 1, 1, 0x80, 0xBF⟩
  else if b = 0xE0 then .longer ⟨0, 1, 2, 0xA0, 0xBF⟩
  else if b = 0xED then .longer ⟨0xD, 1, 2, 0x80, 0x9F⟩
  else if b < 0xF0 then .longer ⟨b - 0xE0, 1, 2, 0x80, 0xBF⟩
  else if b = 0xF0 then .longer ⟨0, 1, 3, 0x90, 0xBF⟩
  else if b < 0xF4 then .longer ⟨b - 0xF0, 1, 3, 0x80, 0xBF⟩
  else if b = 0xF4 then .longer ⟨4, 1, 3, 0x80, 0x8F⟩
  else .refused

/-- What the next byte makes of a character that has begun. -/
def Begun.next (begun : Begun) (b : Nat) : Lead :=
  if begun.low ≤ b ∧ b ≤ begun.high then
    let value := begun.value * 64 + (b - 0x80)
    if begun.owed ≤ 1 then .whole (Char.ofNat value)
    else .longer ⟨value, begun.seen + 1, begun.owed - 1, 0x80, 0xBF⟩
  else .refused

/-- Decodes from a state: `start` is the index of the character that is being read, `done` the
characters before it, last first. -/
def decodeFrom (start : Nat) (done : List Char) : Option Begun → List UInt8 →
    Except Fault (List Char)
  | none, [] => .ok done.reverse
  | some _, [] => .error (.incomplete start)
  | none, b :: rest =>
    match lead b.toNat with
    | .whole c => decodeFrom (start + 1) (c :: done) none rest
    | .longer begun => decodeFrom start done (some begun) rest
    | .refused => .error (.invalid 1 start)
  | some begun, b :: rest =>
    match begun.next b.toNat with
    | .whole c => decodeFrom (start + begun.seen + 1) (c :: done) none rest
    | .longer further => decodeFrom start done (some further) rest
    | .refused => .error (.invalid begun.seen start)

/-- The text that bytes encode. -/
def decode (bytes : List UInt8) : Except Fault (List Char) :=
  decodeFrom 0 [] none bytes

/-- The character that is shown in place of bytes that encode none. -/
def replacement : Char := Char.ofNat 0xFFFD

/-- One byte of text that is to be shown in any case: `done` are the characters before, last first.
A byte that does not go on with the character that has begun puts one replacement in the place of
what has been seen of it, and is then taken as a first byte. -/
def showByte (done : List Char) (begun? : Option Begun) (b : Nat) : List Char × Option Begun :=
  let afresh (done : List Char) : List Char × Option Begun :=
    match lead b with
    | .whole c => (c :: done, none)
    | .longer begun => (done, some begun)
    | .refused => (replacement :: done, none)
  match begun? with
  | none => afresh done
  | some begun =>
    match begun.next b with
    | .whole c => (c :: done, none)
    | .longer further => (done, some further)
    | .refused => afresh (replacement :: done)

/-- The text that bytes show: where they encode none, replacements stand for them. -/
def shown (bytes : List UInt8) : List Char :=
  let step : List Char × Option Begun → UInt8 → List Char × Option Begun :=
    fun (done, begun?) b => showByte done begun? b.toNat
  let (done, begun?) := bytes.foldl step ([], none)
  (if begun?.isSome then replacement :: done else done).reverse

/-- The bytes of a text. -/
def encode (cs : List Char) : List UInt8 :=
  cs.flatMap String.utf8EncodeChar

end WordServer.Text.Utf8
