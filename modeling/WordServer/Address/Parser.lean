import WordServer.Address.Basic
import WordServer.Text.Blank
import WordServer.Text.Caseless
import WordServer.Text.Cut

/-!
# Reading addresses

An address is `scheme:rest` or `scheme://rest`; without a known scheme the whole text is a host and
a port. Everything behind the first question mark is options. Outer blanks are ignored, and so are
slashes at the end of a host and port.
-/

namespace WordServer.Address

/-- The kind that a text begins with, and the rest. -/
def splitScheme (body : List Char) : TransportKind × List Char :=
  if Text.caselessEq body "stdio".toList then (.stdio, [])
  else
    match Text.cutFirst ':' body with
    | none => (.tcp, body)
    | some (scheme, rest) =>
      match TransportKind.ofName? (String.ofList (Text.lower scheme)) with
      | some kind => (kind, (Text.afterStart ['/', '/'] rest).getD rest)
      | none => (.tcp, body)

/-- The host and the text of the port: what is in brackets, or what stands before the last colon. -/
def splitHost (rest : List Char) : Except String (List Char × Option (List Char)) :=
  match rest with
  | '[' :: inner =>
    match Text.cutFirst ']' inner with
    | none => .error "unterminated IPv6 literal"
    | some (host, []) => .ok (host, none)
    | some (host, ':' :: port) => .ok (host, some port)
    | some (_, after) =>
      .error ("unexpected '" ++ String.ofList after ++ "' after IPv6 literal")
  | _ =>
    match Text.cutLast ':' rest with
    | some (host, port) => .ok (host, some port)
    | none => .ok (rest, none)

/-- Reads a port. -/
def readPort? (text : List Char) : Option UInt16 :=
  (Text.readBelow UInt16.size text).map UInt16.ofNat

/-- The host and the port, each of which may be missing. -/
def splitHostPort (rest : List Char) : Except String (Option String × Option UInt16) := do
  let (host, port) ← splitHost (Text.dropEndWhile (· == '/') rest)
  let host := if host.isEmpty then none else some (String.ofList host)
  match port with
  | none => return (host, none)
  | some text =>
    match readPort? text with
    | some port => return (host, some port)
    | none => throw ("invalid port '" ++ String.ofList text ++ "'")

/-- The address of a kind with the text behind its scheme. -/
def ofParts (kind : TransportKind) (rest : List Char) : Except String Address :=
  match kind with
  | .stdio => if rest.isEmpty then .ok .stdio else .error "stdio takes no host, port or path"
  | .unix => .ok (.unix (String.ofList rest))
  | .tcp | .tcp4 | .tcp6 => (splitHostPort rest).map fun (host, port) => { kind, host, port }

/-- The key and the value of an option; one without an equals sign has an empty value. -/
def optionOf (piece : List Char) : String × String :=
  match Text.cutFirst '=' piece with
  | some (key, value) => (String.ofList key, String.ofList value)
  | none => (String.ofList piece, "")

/-- The options of a text, in order. -/
def optionsOf (query : List Char) : List (String × String) :=
  ((query.splitOn '&').filter (!·.isEmpty)).map optionOf

/-- The address that a text without outer blanks names, before it is checked. -/
def ofBody (body : List Char) (options : List (String × String)) : Except String Address := do
  let (kind, rest) := splitScheme body
  let address ← ofParts kind rest
  return options.foldl (fun address (key, value) => address.addOption key value) address

/-- Reads an address. -/
def parse (text : List Char) : Except TransportFault Address := do
  let text := Text.trim text
  if text.isEmpty then throw (.invalid "" "address cannot be empty")
  let (body, options) := match Text.cutFirst '?' text with
    | some (body, query) => (body, optionsOf query)
    | none => (text, [])
  let address ← (ofBody body options).mapError (.invalid (String.ofList text))
  address.validate
  return address

end WordServer.Address
