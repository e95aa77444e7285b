import WordServer.Caller
import WordServer.Command.Serve
import WordServer.Json.Reader
import WordServer.Network
import WordServer.Session.Arrival

/-!
# Checking a server

A client connects to a server, begins, reads the reply, and ends in good order. Its output is the
first reply. What the server does is given as what it sends after each message that it gets.
-/

namespace WordServer.Command.Connect

/-- What a server does after a message. -/
inductive Reaction where
  | silence
  | send (content : List UInt8)
  | close
  deriving DecidableEq, Repr

/-- A server on a local socket, by its reactions to the messages that it gets in turn. -/
structure Peer where
  path : String
  reactions : List Reaction
  deriving DecidableEq, Repr

/-- A conversation: what the client has written, what it can still read, and how the server goes
on. -/
structure Exchange where
  caller : Caller
  incoming : List Wire.Event
  closed : Bool
  reactions : List Reaction

namespace Exchange

/-- The conversation after the server's next reaction. -/
def react (exchange : Exchange) : Exchange :=
  match exchange.reactions with
  | [] => exchange
  | .silence :: reactions => { exchange with reactions }
  | .send content :: reactions =>
    { exchange with incoming := exchange.incoming ++ Wire.eventsOf content, reactions }
  | .close :: reactions => { exchange with closed := true, reactions }

/-- Makes a request. -/
def request (exchange : Exchange) (method : String) (params : Option Json) : Exchange :=
  if exchange.closed then exchange
  else { exchange with caller := (exchange.caller.request method params).2 }.react

/-- Sends a notification. -/
def notify (exchange : Exchange) (method : String) : Exchange :=
  if exchange.closed then exchange
  else { exchange with caller := exchange.caller.notify method none }.react

/-- Reads the next frame of a server that closes the stream or falls silent behind what it has
sent. -/
def readFrame (exchange : Exchange) : Wire.Reading × Exchange :=
  let behind := if exchange.closed then [] else [Wire.Event.fault Session.stalled]
  let (reading, rest) :=
    Wire.readFrame Wire.defaultContentLimit (exchange.incoming ++ behind)
  (reading, { exchange with incoming := rest.filter (· != .fault Session.stalled) })

end Exchange

/-- A span of whole seconds in words. -/
def seconds (n : Nat) : String :=
  if n = 0 then "0ns" else toString n ++ "s"

/-- The JSON value of a payload. -/
def payload? (content : List UInt8) : Option Json :=
  match Text.Utf8.decode content with
  | .ok text => Json.read? text
  | .error _ => none

/-- The reply that was read. -/
def replyOf (timeoutSecs : Nat) : Wire.Reading → Except Fault Json
  | .finished => .error (.plain "Server closed the connection")
  | .failed fault =>
    if fault = .stream Session.stalled then
      .error (.plain ("Timed out after " ++ seconds timeoutSecs ++ " waiting for reply"))
    else .error (.plain fault.message)
  | .frame frame =>
    match payload? frame.content with
    | some reply => .ok reply
    | none => .error .notJson

/-- What the client says when it begins. -/
def greeting (processId : Nat) : Json :=
  .object [
    ("processId", .int processId),
    ("clientInfo", .object [
      ("name", .str (Service.serviceName ++ "-connect")),
      ("version", .str Service.serviceVersion)]),
    ("rootUri", .null),
    ("capabilities", .object [])]

/-- The whole conversation: the first reply, and what was written. -/
def converse (options : ConnectOptions) (processId : Nat) (reactions : List Reaction) :
    Except Fault Json × List UInt8 :=
  let layout := Json.Layout.compact.indentIf options.pretty
  let exchange : Exchange :=
    { caller := { layout }, incoming := [], closed := false, reactions }
  let exchange := exchange.request "initialize" (some (greeting processId))
  let (reading, exchange) := exchange.readFrame
  match replyOf options.timeoutSecs reading with
  | .error fault => (.error fault, exchange.caller.written)
  | .ok reply =>
    let exchange := (exchange.notify "initialized").request "shutdown" none
    let (reading, exchange) := exchange.readFrame
    match replyOf options.timeoutSecs reading with
    | .error fault => (.error fault, exchange.caller.written)
    | .ok _ => (.ok reply, (exchange.notify "exit").caller.written)

/-- Whether a server listens at a place. -/
def listensAt (tree : FileTree) (place : Place) (peer : Peer) : Bool :=
  match tree.find peer.path with
  | .ok other => place == other
  | .error _ => false

/-- Why none of several network addresses can be reached: the last fault counts, and `fault` where
there was no address at all. -/
def lastFault (fault : SystemFault) (addresses : List SocketAddress) : SystemFault :=
  (addresses.getLast?.map fun address => Network.connectFault address.host).getD fault

/-- The reactions of the server at an address. Nobody but the peer listens. -/
def reactionsAt (address : Address) (tree : FileTree) (peer : Option Peer) :
    Except Fault (List Reaction) :=
  let unreachable (cause : SystemFault) : Fault :=
    .failed ("Failed to connect to " ++ address.display) [cause.message]
  match address.kind with
  | .stdio => .error (.plain "connect needs a socket address, not stdio")
  | .unix =>
    match tree.socketPlace (address.path.getD "") with
    | .error cause => .error (unreachable cause)
    | .ok place =>
      match peer.filter (listensAt tree place) with
      | some peer => .ok peer.reactions
      | none => .error (unreachable .refused)
  | .tcp | .tcp4 | .tcp6 =>
    match address.resolve with
    | .error fault => .error (.plain fault.message)
    | .ok addresses => .error (unreachable (lastFault .networkUnreachable addresses))

/-- Checks a server: the text that is printed, and what was written to the server. -/
def run (options : ConnectOptions) (processId : Nat) (tree : FileTree) (peer : Option Peer) :
    Except Fault (List Char) × List UInt8 :=
  match Serve.parseAddress options.address with
  | .error fault => (.error fault, [])
  | .ok address =>
    match reactionsAt address tree peer with
    | .error fault => (.error fault, [])
    | .ok reactions =>
      let (result, written) := converse options processId reactions
      let layout := Json.Layout.compact.indentIf options.pretty
      (result.map fun reply => reply.write layout ++ ['\n'], written)

end WordServer.Command.Connect
