import WordServer.Address.Basic
import WordServer.Address.Host

/-!
# Resolving addresses

The network addresses behind an address: those of its host that are of the family that its kind
takes. A host has one network address, so there is one or none.
-/

namespace WordServer

/-- A host and a port. -/
structure SocketAddress where
  host : Host
  port : UInt16
  deriving DecidableEq, Repr

/-- The host and the port in words. -/
def SocketAddress.display (address : SocketAddress) : String :=
  address.host.display ++ ":" ++ String.ofList (Text.decimal address.port.toNat)

/-- Whether a kind uses addresses of this family. -/
def TransportKind.accepts (kind : TransportKind) (ip : Ip) : Bool :=
  match kind, ip with
  | .tcp, _ | .tcp4, .v4 _ | .tcp6, .v6 _ => true
  | _, _ => false

/-- Why a host has no network address. -/
def Host.lookupFault (name : String) : TransportFault :=
  if Char.ofNat 0 ∈ name.toList then .nulInHost
  else if isName name.toList then .unanswered name
  else .unresolved name

/-- The network addresses of a valid address, of its kind's family. -/
def Address.resolve (address : Address) : Except TransportFault (List SocketAddress) := do
  address.validate
  match address.host, address.port with
  | some name, some port =>
    match Host.read? name <|> Host.ofName? name with
    | none => throw (Host.lookupFault name)
    | some host =>
      if address.kind.accepts host.ip then return [⟨host, port⟩]
      else throw (.noAddress address.kind name)
  | _, _ => throw (.missingHost address.kind)

end WordServer
