import WordServer.Address.Ip
import WordServer.Text.Caseless
import WordServer.Text.Cut

/-!
# Hosts

A host is given by number or by name. A host by number is an IPv4 address or an IPv6 address.
Besides its usual form an IPv4 address has the loose one, of one to four numbers with dots between:
each is decimal, octal behind a zero or hexadecimal behind `0x`, all but the last are bytes, and the
last fills the bytes that are left. An IPv6 address may name the network interface that it belongs
to, behind a percent sign. Of the names the machine knows only its own; others would have to be
asked for.
-/

namespace WordServer

/-- A network address and the number of the interface that it belongs to; zero leaves that open. -/
structure Host where
  ip : Ip
  interface : Nat := 0
  deriving DecidableEq, Repr

namespace Host

/-- The value of a text that is one or more digits of a base, sixteen at most, and nothing else. It
has to fit in four bytes. -/
def numeral? (base : Nat) (cs : List Char) : Option Nat := do
  let digits ← cs.mapM Text.hexValue?
  if digits.isEmpty || digits.any (base ≤ ·) then none
  else Text.valueBelow? base UInt32.size digits

/-- Reads a number of an IPv4 address in loose form. -/
def readNumber? : List Char → Option Nat
  | '0' :: 'x' :: digits => numeral? 16 digits
  | '0' :: 'X' :: digits => numeral? 16 digits
  | '0' :: digits => numeral? 8 ('0' :: digits)
  | digits => numeral? 10 digits

/-- The last bytes of a number, most significant first. -/
def lastBytes : (count : Nat) → Nat → List Nat
  | 0, _ => []
  | count + 1, n => lastBytes count (n / 256) ++ [n % 256]

/-- The value of bytes, most significant first. -/
def bytesValue (bytes : List Nat) : Nat :=
  bytes.foldl (fun n byte => 256 * n + byte) 0

/-- The bytes that numbers stand for: each but the last is one byte, and the last fills the room
that is left. -/
def fill? : (room : Nat) → List Nat → Option (List Nat)
  | 0, _ => none
  | _ + 1, [] => none
  | room + 1, [last] => some (lastBytes (room + 1) last) |>.filter (bytesValue · == last)
  | room + 1, number :: rest =>
    if number < 256 then (fill? room rest).map (number :: ·) else none

/-- Reads an IPv4 address in loose form. -/
def readLoose? (cs : List Char) : Option (List Nat) :=
  ((cs.splitOn '.').mapM readNumber?).bind (fill? 4)

/-- The interface that a machine has to itself. -/
def ownInterface : Nat := 1

/-- The name of that interface. -/
def ownInterfaceName : String := "lo"

/-- Reads an interface, by its number or, for a local address, by its name. -/
def readInterface? (groups : List Nat) (cs : List Char) : Option Nat :=
  if Ip.isLocal groups && String.ofList cs == ownInterfaceName then some ownInterface
  else Text.digitsBelow? UInt32.size cs

/-- Reads an IPv6 address and its interface. -/
def readScoped? (cs : List Char) : Option Host := do
  let (address, interface) ← Text.cutFirst '%' cs
  let groups ← Ip.readV6? address
  return ⟨.v6 groups, ← readInterface? groups interface⟩

/-- Reads a host by number. -/
def read? (host : String) : Option Host :=
  (Ip.read? host).map (⟨·, 0⟩)
    <|> (readLoose? host.toList).map (⟨.v4 ·, 0⟩)
    <|> readScoped? host.toList

/-- The machine's name for itself. -/
def ownName : String := "localhost"

/-- The host that the machine knows by a name. -/
def ofName? (name : String) : Option Host :=
  if Text.caselessEq name.toList ownName.toList then some ⟨.v4 [127, 0, 0, 1], 0⟩ else none

/-- The longest label of a name. -/
def longestLabel : Nat := 63

/-- The longest name, without a dot at its end. -/
def longestName : Nat := 253

/-- The characters of names besides dots. -/
def isNameChar (c : Char) : Bool :=
  c.isAlphanum || c == '-' || c == '_'

/-- Whether one can ask for the address of a name: it has labels with dots between, no hyphen in
front, and perhaps a dot at its end, which is also a name by itself. -/
def isName (name : List Char) : Bool :=
  let bare := if name.getLast? = some '.' then name.dropLast else name
  let labels := bare.splitOn '.'
  name == ['.'] ||
    (bare.length ≤ longestName && bare.head? != some '-' &&
      labels.all fun label =>
        !label.isEmpty && label.length ≤ longestLabel && label.all isNameChar)

/-- The text of a host before a port. -/
def display (host : Host) : String :=
  match host.ip with
  | .v4 _ => host.ip.display
  | .v6 _ =>
    let interface :=
      if host.interface = 0 then "" else "%" ++ String.ofList (Text.decimal host.interface)
    "[" ++ host.ip.display ++ interface ++ "]"

end Host

end WordServer
