import WordServer.Address.Resolve
import WordServer.Network

/-!
# Listening

What it takes to listen on an address: the standard streams cannot be listened on, a network address
has to be one that the network allows, and a local socket needs a free path, which a socket left
behind by an earlier server does not take.
-/

namespace WordServer

/-- Where a server listens. -/
inductive Listener where
  | network (address : SocketAddress)
  | onPath (path : String)
  deriving DecidableEq, Repr

namespace Listener

/-- Listens on a local socket. An old socket is gone even if a new one cannot be made. -/
def bindPath (tree : FileTree) (path : String) : Except SystemFault Unit × FileTree :=
  match tree.removeStaleSocket path with
  | .error fault => (.error fault, tree)
  | .ok cleared =>
    match cleared.makeSocket path with
    | .error fault => (.error fault, cleared)
    | .ok bound => (.ok (), bound)

/-- Listens on the first of several network addresses that can be listened on; if there is none, the
last fault counts, and `fault` where there was no address at all. -/
def bindFirst (fault : SystemFault) : List SocketAddress → Except SystemFault Listener
  | [] => .error fault
  | address :: rest =>
    match Network.listenFault? address.host with
    | none => .ok (.network address)
    | some fault => bindFirst fault rest

/-- Listens on an address. -/
def bind (address : Address) (tree : FileTree) : Except TransportFault Listener × FileTree :=
  let refusedWith (fault : SystemFault) : TransportFault := .bind address.display fault.message
  match address.validate with
  | .error fault => (.error fault, tree)
  | .ok () =>
    match address.kind with
    | .stdio => (.error (.invalid address.display "stdio does not listen"), tree)
    | .unix =>
      let path := address.path.getD ""
      let (result, tree) := bindPath tree path
      ((result.mapError refusedWith).map fun () => .onPath path, tree)
    | .tcp | .tcp4 | .tcp6 =>
      (do (bindFirst .addressUnavailable (← address.resolve)).mapError refusedWith, tree)

end Listener

end WordServer
