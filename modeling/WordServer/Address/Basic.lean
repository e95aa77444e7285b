import WordServer.Entries
import WordServer.Text.Decimal

/-!
# Addresses

Where a server listens or a client connects: the standard streams, a host and a port, or the path of
a local socket, with options that repeat under one key. An address is valid when its kind's own
fields are there; the other fields are not looked at.
-/

namespace WordServer

/-- How bytes travel. -/
inductive TransportKind where
  | stdio
  /-- Either family of network addresses. -/
  | tcp
  | tcp4
  | tcp6
  | unix
  deriving DecidableEq, Repr

namespace TransportKind

/-- Every kind. -/
def all : List TransportKind := [.stdio, .tcp, .tcp4, .tcp6, .unix]

/-- The name of a kind, which is also its scheme. -/
def name : TransportKind → String
  | .stdio => "stdio"
  | .tcp => "tcp"
  | .tcp4 => "tcp4"
  | .tcp6 => "tcp6"
  | .unix => "unix"

/-- The kind with a name. -/
def ofName? (name : String) : Option TransportKind :=
  all.find? (·.name == name)

/-- Whether a kind takes a host and a port. -/
def isTcp : TransportKind → Bool
  | .tcp | .tcp4 | .tcp6 => true
  | .stdio | .unix => false

/-- A kind is found by its name. -/
theorem ofName?_name (kind : TransportKind) : ofName? kind.name = some kind := by
  cases kind <;> decide

end TransportKind

/-- Why an address cannot be used. -/
inductive TransportFault where
  | missingHost (kind : TransportKind)
  | missingPort (kind : TransportKind)
  | missingPath
  | invalid (input message : String)
  /-- The host has no address of the kind's family. -/
  | noAddress (kind : TransportKind) (host : String)
  /-- The host is neither an address nor a name. -/
  | unresolved (host : String)
  /-- The host is a name, and there is nobody to ask for its address. -/
  | unanswered (host : String)
  /-- The host holds the character that ends texts for the system. -/
  | nulInHost
  | bind (address reason : String)
  deriving DecidableEq, Repr

/-- The cause in words. -/
def TransportFault.message : TransportFault → String
  | .missingHost kind => kind.name ++ " address requires a host"
  | .missingPort kind => kind.name ++ " address requires a port"
  | .missingPath => "Unix socket address requires a path"
  | .invalid input message => "Invalid address '" ++ input ++ "': " ++ message
  | .noAddress kind host => "No " ++ kind.name ++ " address found for " ++ host
  | .unresolved _ => "failed to lookup address information: Name or service not known"
  | .unanswered _ =>
    "failed to lookup address information: Temporary failure in name resolution"
  | .nulInHost => "file name contained an unexpected NUL byte"
  | .bind address reason => "Failed to listen on " ++ address ++ ": " ++ reason

/-- An address. -/
structure Address where
  kind : TransportKind
  host : Option String := none
  port : Option UInt16 := none
  path : Option String := none
  options : Entries (List String) := []
  deriving DecidableEq, Repr

namespace Address

/-- The standard streams. -/
def stdio : Address := { kind := .stdio }

/-- A host and a port. -/
def tcp (kind : TransportKind) (host : String) (port : UInt16) : Address :=
  { kind, host := some host, port := some port }

/-- A local socket. -/
def unix (path : String) : Address :=
  { kind := .unix, path := some path }

/-- The address with one more value of an option. -/
def addOption (address : Address) (key value : String) : Address :=
  let values := (Entries.lookup key address.options).getD []
  { address with options := Entries.put key (values ++ [value]) address.options }

/-- The first value of an option. -/
def option? (address : Address) (key : String) : Option String :=
  (Entries.lookup key address.options).bind List.head?

/-- Whether a text is missing or empty. -/
def isBare (text : Option String) : Bool :=
  (text.getD "").isEmpty

/-- Checks that the fields of the kind are there. -/
def validate (address : Address) : Except TransportFault Unit :=
  match address.kind with
  | .stdio => .ok ()
  | .unix => if isBare address.path then .error .missingPath else .ok ()
  | .tcp | .tcp4 | .tcp6 =>
    if isBare address.host then .error (.missingHost address.kind)
    else if address.port.isNone then .error (.missingPort address.kind)
    else .ok ()

/-- A host as it stands before a port: one with colons is in brackets. -/
def bracketed (host : String) : String :=
  if ':' ∈ host.toList then "[" ++ host ++ "]" else host

/-- The canonical text of an address, without its options. -/
def display (address : Address) : String :=
  match address.kind with
  | .stdio => "stdio:"
  | .unix => "unix://" ++ address.path.getD ""
  | .tcp | .tcp4 | .tcp6 =>
    address.kind.name ++ "://" ++ bracketed (address.host.getD "") ++ ":" ++
      String.ofList (Text.decimal (address.port.getD 0).toNat)

end Address

end WordServer
