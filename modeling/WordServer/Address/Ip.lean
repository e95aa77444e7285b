import WordServer.Text.Decimal

/-!
# Numeric hosts

IPv4 addresses as four decimal numbers and IPv6 addresses as eight groups of hexadecimal digits, of
which one run of zeros may be left out and the last two may be written as an IPv4 address. They are
written back in canonical form: lower case, the longest run of zero groups left out.
-/

namespace WordServer

/-- A network address: four bytes or eight groups of sixteen bits. -/
inductive Ip where
  | v4 (bytes : List Nat)
  | v6 (groups : List Nat)
  deriving DecidableEq, Repr

namespace Ip

/-- Reads one byte of an IPv4 address: at most three digits, and no zero in front of others. -/
def readByte? (cs : List Char) : Option Nat :=
  if 3 < cs.length || (1 < cs.length && cs.head? == some '0') then none
  else Text.digitsBelow? 256 cs

/-- Reads an IPv4 address. -/
def readV4? (cs : List Char) : Option (List Nat) :=
  let parts := cs.splitOn '.'
  if parts.length = 4 then parts.mapM readByte? else none

/-- Reads one group of an IPv6 address: one to four hexadecimal digits. -/
def readGroup? (cs : List Char) : Option Nat :=
  if cs.isEmpty || 4 < cs.length then none
  else (cs.mapM Text.hexValue?).map fun digits => digits.foldl (fun n d => 16 * n + d) 0

/-- The two groups that an IPv4 address stands for. -/
def groupsOfV4 : List Nat → List Nat
  | [a, b, c, d] => [256 * a + b, 256 * c + d]
  | _ => []

/-- Reads groups with colons between; the last may be an IPv4 address. -/
def readGroups? : List (List Char) → Option (List Nat)
  | [] => some []
  | [last] => (readGroup? last).map ([·]) <|> (readV4? last).map groupsOfV4
  | part :: rest => do return (← readGroup? part) :: (← readGroups? rest)

/-- Reads groups that may be none at all. -/
def readSide? (cs : List Char) : Option (List Nat) :=
  if cs.isEmpty then some [] else readGroups? (cs.splitOn ':')

/-- The parts before and after the first pair of colons. -/
def cutGap (before : List Char) : List Char → Option (List Char × List Char)
  | ':' :: ':' :: rest => some (before.reverse, rest)
  | c :: rest => cutGap (c :: before) rest
  | [] => none

/-- Reads an IPv6 address. An IPv4 part stands at the end of the whole only, and a gap stands for at
least one group. -/
def readV6? (cs : List Char) : Option (List Nat) :=
  match cutGap [] cs with
  | none => (readSide? cs).filter (·.length = 8)
  | some (before, after) => do
    if '.' ∈ before then failure
    let head ← readSide? before
    let tail ← readSide? after
    if 8 ≤ head.length + tail.length then failure
    return head ++ List.replicate (8 - head.length - tail.length) 0 ++ tail

/-- Reads a numeric host. -/
def read? (host : String) : Option Ip :=
  (readV4? host.toList).map .v4 <|> (readV6? host.toList).map .v6

/-- Numbers with a dot between. -/
def displayV4 (bytes : List Nat) : String :=
  String.intercalate "." (bytes.map fun n => String.ofList (Text.decimal n))

/-- Groups with a colon between. -/
def displayGroups (groups : List Nat) : String :=
  String.intercalate ":" (groups.map fun n => String.ofList (Text.hexadecimal n))

/-- The number of zeros at the front. -/
def zerosAtFront (groups : List Nat) : Nat :=
  (groups.takeWhile (· == 0)).length

/-- The start and length of the longest run of zeros, the first of several; `best` is the longest
before `index`. -/
def longestZeros (index : Nat) (best : Nat × Nat) : List Nat → Nat × Nat
  | [] => best
  | group :: rest =>
    let here := zerosAtFront (group :: rest)
    longestZeros (index + 1) (if best.2 < here then (index, here) else best) rest

/-- The canonical text of eight groups. -/
def displayV6 (groups : List Nat) : String :=
  match groups with
  | [0, 0, 0, 0, 0, 0xffff, g, h] => "::ffff:" ++ displayV4 [g / 256, g % 256, h / 256, h % 256]
  | _ =>
    let (start, length) := longestZeros 0 (0, 0) groups
    if length < 2 then displayGroups groups
    else displayGroups (groups.take start) ++ "::" ++ displayGroups (groups.drop (start + length))

/-- The canonical text. -/
def display : Ip → String
  | .v4 bytes => displayV4 bytes
  | .v6 groups => displayV6 groups

/-- Whether eight groups are an IPv4 address in the notation of IPv6. -/
def isMapped (groups : List Nat) : Bool :=
  groups.take 6 == [0, 0, 0, 0, 0, 0xffff]

/-- Whether eight groups stand for several receivers. -/
def isMulticast (groups : List Nat) : Bool :=
  groups.head?.any (0xff00 ≤ ·)

/-- Whether eight groups mean one machine on one link only. -/
def isLinkLocal (groups : List Nat) : Bool :=
  groups.head?.any (· / 64 == 0xfe80 / 64)

/-- Whether eight groups mean something on one interface or one link only. -/
def isLocal (groups : List Nat) : Bool :=
  isLinkLocal groups || (isMulticast groups && groups.head?.any (· % 16 ∈ [1, 2]))

end Ip

end WordServer
