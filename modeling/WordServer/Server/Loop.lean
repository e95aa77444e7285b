import WordServer.Server.Pool

/-!
# The serve loop

A server is constructed, listens, and then serves: it subscribes to the shutdown signal and goes
through turns of its accept loop until it takes the signal. A signal reaches the loop only if the
loop has subscribed when it is sent; it then waits for the loop, however many turns come first.

This much is taken from the runtime. A signal reaches those who have subscribed when it is sent, and
waits for each of them; no one else is told, and whoever sends it does not learn whether anybody was.
Everything that `Pool` takes from it holds here too. A server serves once: a second loop of the same
server would have a pool and a subscription of its own.
-/

namespace WordServer

/-- The shutdown signal as the serve loop sees it. -/
structure ShutdownSignal where
  /-- Whether the loop has subscribed. -/
  subscribed : Bool := false
  /-- Whether a signal waits for the loop. -/
  waiting : Bool := false
  deriving DecidableEq, Repr

namespace ShutdownSignal

/-- Sends the signal to those who have subscribed. -/
def send (signal : ShutdownSignal) : ShutdownSignal :=
  { signal with waiting := signal.waiting || signal.subscribed }

/-- Subscribes; what was sent before is not seen. -/
def subscribe (_ : ShutdownSignal) : ShutdownSignal :=
  { subscribed := true, waiting := false }

end ShutdownSignal

/-- How far a server has come. -/
inductive ServePhase where
  | constructed
  | listening
  | serving
  | ended
  deriving DecidableEq, Repr

/-- A server's serve loop. -/
structure ServeLoop where
  phase : ServePhase
  signal : ShutdownSignal
  pool : Pool
  deriving DecidableEq, Repr

namespace ServeLoop

/-- What can happen to a server. -/
inductive Step where
  | listen
  /-- The loop begins by subscribing to the signal. -/
  | serve
  /-- Somebody asks for shutdown. -/
  | request
  | turn (step : Pool.Step)
  /-- The loop takes the signal and ends. -/
  | takeSignal
  deriving DecidableEq, Repr

/-- A server that has been constructed. -/
def ofLimit (maxConnections : Nat) : ServeLoop :=
  { phase := .constructed, signal := {}, pool := .ofLimit maxConnections }

/-- The server after a step that can happen. -/
def step? (server : ServeLoop) : Step → Option ServeLoop
  | .listen =>
    if server.phase = .constructed then some { server with phase := .listening } else none
  | .serve =>
    if server.phase = .listening then
      some { server with phase := .serving, signal := server.signal.subscribe }
    else none
  | .request => some { server with signal := server.signal.send }
  | .turn step =>
    if server.phase = .serving ∧ step ≠ .stop then
      (server.pool.step? step).map fun pool => { server with pool }
    else none
  | .takeSignal =>
    if server.phase = .serving ∧ server.signal.waiting then
      some
        { phase := .ended
          signal := { server.signal with waiting := false }
          pool := server.pool.stepOrStay .stop }
    else none

/-- The server after a step, or as it is if the step cannot happen. -/
def stepOrStay (server : ServeLoop) (step : Step) : ServeLoop :=
  (server.step? step).getD server

/-- The server after steps, as far as each can happen. -/
def run? : ServeLoop → List Step → Option ServeLoop
  | server, [] => some server
  | server, step :: rest =>
    match server.step? step with
    | some server => server.run? rest
    | none => none

end ServeLoop

end WordServer
