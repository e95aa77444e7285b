import WordServer.Listener
import WordServer.Server.Loop
import WordServer.Service.Basic
import WordServer.Session.Arrival

/-!
# The server on a local socket

Clients connect, send, and receive; every connection has a session of its own, and sessions share
nothing but the pool. A connection that finds the pool full waits, in order of arrival, until a
session ends. Stopping the server closes all connections and removes the socket.
-/

namespace WordServer

/-- A client's connection. -/
structure Connection where
  session : Session Service.State
  /-- The task that serves it, once it has been accepted. -/
  task : Option Nat := none
  /-- Whether the client will send no more. -/
  complete : Bool := false
  /-- Whether the server has closed it. -/
  closed : Bool := false
  /-- How many replies the client has received. -/
  received : Nat := 0

/-- A server that listens on a local socket, and its clients. -/
structure Server where
  loop : ServeLoop
  files : FileTree
  path : String
  limit : Nat
  protocol : Protocol Service.State
  /-- All connections in order of arrival. -/
  connections : List Connection := []
  /-- The place of each client's connection. -/
  clients : Entries Nat := []

/-- What a client that waits for a reply gets. -/
inductive Received where
  | reply (content : List UInt8)
  | closed
  | silence
  deriving DecidableEq, Repr

namespace Server

variable [Json.Wording]

/-- Starts a server on a local socket. -/
def start (path : String) (files : FileTree) (maxConnections limit : Nat)
    (suggester : Suggester) : Except TransportFault Server :=
  match Listener.bind (.unix path) files with
  | (.error fault, _) => .error fault
  | (.ok _, files) =>
    .ok
      { loop := ((ServeLoop.ofLimit maxConnections).stepOrStay .listen).stepOrStay .serve
        files, path, limit
        protocol := Service.protocol suggester }

/-- Whether the server accepts connections. -/
def isServing (server : Server) : Bool :=
  server.loop.phase == .serving

/-- The server after a turn of its accept loop. -/
def turn (server : Server) (step : Pool.Step) : Server :=
  { server with loop := server.loop.stepOrStay (.turn step) }

/-- Lets the session of an accepted connection answer what has arrived. -/
def serveConnection (server : Server) (i : Nat) (connection : Connection) : Server :=
  match connection.task with
  | none => server
  | some task =>
    if connection.closed then server
    else
      match connection.session.advance connection.complete with
      | .goesOn session =>
        { server with connections := server.connections.set i { connection with session } }
      | .ended result session =>
        let outcome : TaskEnd := match result with
          | .ok () => .success
          | .error _ => .failure
        let closed := { connection with session, closed := true }
        ({ server with connections := server.connections.set i closed }.turn
          (.finish task outcome)).turn (.join task)

/-- Lets every accepted session answer what has arrived. -/
def serveAll (server : Server) : Server :=
  server.connections.zipIdx.foldl (fun server (connection, i) =>
    server.serveConnection i connection) server

/-- Where connections to a local socket come from. -/
def origin : String := "unix"

/-- Accepts the first connection that waits, if there is a permit. -/
def acceptNext (server : Server) : Server :=
  match server.connections.findIdx? (·.task.isNone) with
  | none => server
  | some i =>
    let ready := server.turn .acquire
    if ready.loop.pool.accepting then
      let task := ready.loop.pool.accepted
      let peer := ready.loop.pool.nextLabel origin
      { ready.turn (.accept origin) with
        connections := ready.connections.modify i fun connection =>
          { connection with task := some task, session := { connection.session with peer } } }
    else server

/-- Accepts and serves until nothing more can happen. A round accepts a connection or is the last,
so `rounds`, which starts above the number of connections, is never used up. -/
def settleFor : (rounds : Nat) → Server → Server
  | 0, server => server
  | rounds + 1, server => settleFor rounds server.serveAll.acceptNext

/-- Accepts and serves until nothing more can happen. -/
def settle (server : Server) : Server :=
  if server.isServing then settleFor (server.connections.length + 2) server else server

/-- The place of a client's connection. -/
def find? (server : Server) (client : String) : Option Nat :=
  Entries.lookup client server.clients

/-- Changes a client's connection and lets the server act on it. -/
def update (server : Server) (client : String) (change : Connection → Connection) : Server :=
  match server.find? client with
  | none => server
  | some i => { server with connections := server.connections.modify i change }.settle

/-- A client ends its sending. -/
def endSending (server : Server) (client : String) : Server :=
  server.update client fun connection => { connection with complete := true }

/-- A client drops its connection. -/
def disconnect (server : Server) (client : String) : Server :=
  let server := server.endSending client
  { server with clients := Entries.remove client server.clients }

/-- A client connects, unless the server has stopped. A name that is taken is given up first. -/
def connect (server : Server) (client : String) : Bool × Server :=
  if server.isServing then
    let server := server.disconnect client
    let connection : Connection :=
      { session :=
          { peer := origin
            limit := server.limit
            protocol := server.protocol
            state := {}
            input := [] } }
    (true,
      { server with
        clients := Entries.put client server.connections.length server.clients
        connections := server.connections ++ [connection] }.settle)
  else (false, server)

/-- A client sends bytes; behind the end of its sending they are lost. -/
def send (server : Server) (client : String) (content : List UInt8) : Server :=
  server.update client fun connection =>
    if connection.complete then connection
    else
      { connection with
        session :=
          { connection.session with
            input := connection.session.input ++ Wire.eventsOf content } }

/-- The first reply that a client has not taken. -/
def nextReply? (connection : Connection) : Option Message :=
  connection.session.sent.reverse[connection.received]?

/-- A client takes the next reply, if there is one. -/
def receive (server : Server) (client : String) : Received × Server :=
  match (server.find? client).bind fun i => server.connections[i]? with
  | none => (.closed, server)
  | some connection =>
    match nextReply? connection with
    | some reply =>
      (.reply reply.encode,
        server.update client fun connection =>
          { connection with received := connection.received + 1 })
    | none =>
      (if connection.closed || !server.isServing then .closed else .silence, server)

/-- Stops the server: the loop takes the signal, connections are closed and the socket is removed.
-/
def stop (server : Server) : Server :=
  let loop := (server.loop.stepOrStay .request).stepOrStay .takeSignal
  let files := match server.files.find server.path with
    | .ok place => server.files.erase place
    | .error _ => server.files
  { server with
    loop, files
    connections := server.connections.map fun connection => { connection with closed := true } }

end Server

end WordServer
