/-!
# Base64

Bytes written with sixty-four characters, six bits each. Four characters stand for three bytes; the
last group may be shorter, or be filled up with padding. Blanks between characters mean nothing.
-/

namespace WordServer.Credentials.Base64

/-- Why characters are no base64. -/
inductive Fault where
  | invalidCharacter (byte : UInt8)
  /-- More characters follow on a group with padding. -/
  | prematurePadding
  /-- The last group has too few characters, or padding that does not fill it up. -/
  | invalidTrailingPadding
  deriving DecidableEq, Repr

/-- The fault in words. -/
def Fault.message : Fault → String
  | .invalidCharacter byte => "InvalidCharacter(" ++ toString byte.toNat ++ ")"
  | .prematurePadding => "PrematurePadding"
  | .invalidTrailingPadding => "InvalidTrailingPadding"

/-- Whether a byte is a tab, a line feed, a carriage return or a space. -/
def isBlank (b : UInt8) : Bool :=
  b == 0x09 || b == 0x0A || b == 0x0D || b == 0x20

/-- The six bits of a character; padding has none. -/
def sextet (b : UInt8) : Except Fault (Option Nat) :=
  let n := b.toNat
  if 0x41 ≤ n ∧ n ≤ 0x5A then .ok (some (n - 0x41))
  else if 0x61 ≤ n ∧ n ≤ 0x7A then .ok (some (n - 0x61 + 26))
  else if 0x30 ≤ n ∧ n ≤ 0x39 then .ok (some (n - 0x30 + 52))
  else if n = 0x2B then .ok (some 62)
  else if n = 0x2F then .ok (some 63)
  else if n = 0x3D then .ok none
  else .error (.invalidCharacter b)

/-- The three bytes of a full group. -/
def groupBytes (a b c d : Nat) : UInt8 × UInt8 × UInt8 :=
  (UInt8.ofNat (a * 4 + b / 16), UInt8.ofNat (b % 16 * 16 + c / 4), UInt8.ofNat (c % 4 * 64 + d))

/-- The bytes that characters stand for, group by group; `done` are those before, last first. -/
def ofSextets (done : List UInt8) : List (Option Nat) → Except Fault (List UInt8)
  | [] => .ok done.reverse
  | some a :: some b :: some c :: some d :: rest =>
    let (x, y, z) := groupBytes a b c d
    ofSextets (z :: y :: x :: done) rest
  | [some a, some b, some c] | [some a, some b, some c, none] =>
    let (x, y, _) := groupBytes a b c 0
    .ok (y :: x :: done).reverse
  | [some a, some b] | [some a, some b, none, none] =>
    let (x, _, _) := groupBytes a b 0 0
    .ok (x :: done).reverse
  | _ :: _ :: _ :: _ :: _ :: _ => .error .prematurePadding
  | _ => .error .invalidTrailingPadding

/-- The bytes that characters stand for. A character that is not of the sixty-four is reported
before padding in a wrong place. -/
def decode (characters : List UInt8) : Except Fault (List UInt8) := do
  ofSextets [] (← (characters.filter (!isBlank ·)).mapM sextet)

end WordServer.Credentials.Base64
