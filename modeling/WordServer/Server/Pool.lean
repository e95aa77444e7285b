/-!
# The pool of sessions

A server runs as many sessions at once as it has permits. The accept loop takes a permit before it
accepts a connection; the session that is started holds the permit until it ends, and a permit that
was taken in vain goes back. A task stays in the live index, under the label of its peer, until the
loop has joined it. Stopping aborts all tasks and ends the loop.

The steps are those of the accept loop in whatever order they come; a step that cannot happen in a
state has no result there.

This much is taken from the runtime that runs the tasks. A permit is freed however its task ends, a
crash and an abort included, because the task owns it. The numbers of tasks that have not been joined
differ; tasks are numbered here in the order in which they were started. There may be any number of
permits, where a runtime has a greatest one and refuses to make a pool beyond it. A pool belongs to
one loop.
-/

namespace WordServer

/-- How a session's task ends. -/
inductive TaskEnd where
  | success
  | failure
  | failedHandshake
  | crash
  deriving DecidableEq, Repr

/-- A session's task that has been started and not joined. -/
structure PoolTask where
  number : Nat
  finished : Bool
  deriving DecidableEq, Repr

/-- The permits and tasks of an accept loop. -/
structure Pool where
  capacity : Nat
  /-- Permits that nobody holds. -/
  free : Nat
  /-- Whether the pending accept holds a permit. -/
  accepting : Bool
  tasks : List PoolTask
  /-- The labels of tasks that have not been joined. -/
  live : List (Nat × String)
  /-- Connections accepted so far. -/
  accepted : Nat
  stopped : Bool
  deriving DecidableEq, Repr

namespace Pool

/-- What can happen to an accept loop. -/
inductive Step where
  /-- The pending accept gets a permit. -/
  | acquire
  /-- A connection is accepted from an origin, and its task started. -/
  | accept (origin : String)
  | acceptFails
  /-- The pending accept is dropped because something else came first. -/
  | abandon
  | finish (number : Nat) (outcome : TaskEnd)
  /-- The loop takes note of a finished task, which drops the pending accept. -/
  | join (number : Nat)
  | stop
  deriving DecidableEq, Repr

/-- A pool for at most so many sessions at once, and for one at least. -/
def ofLimit (maxConnections : Nat) : Pool :=
  { capacity := max 1 maxConnections
    free := max 1 maxConnections
    accepting := false
    tasks := []
    live := []
    accepted := 0
    stopped := false }

/-- Permits held by the pending accept. -/
def pendingPermits (pool : Pool) : Nat :=
  if pool.accepting then 1 else 0

/-- The number of sessions that run. -/
def running (pool : Pool) : Nat :=
  pool.tasks.countP (!·.finished)

/-- The pool after the pending accept was dropped. -/
def dropPending (pool : Pool) : Pool :=
  { pool with free := pool.free + pool.pendingPermits, accepting := false }

/-- The label of the next connection. -/
def nextLabel (pool : Pool) (origin : String) : String :=
  origin ++ "#" ++ toString (pool.accepted + 1)

/-- Starts the task of a connection, which takes over the permit of the pending accept. -/
def start (pool : Pool) (origin : String) : Pool :=
  { pool with
    accepting := false
    tasks := pool.tasks ++ [⟨pool.accepted, false⟩]
    live := pool.live ++ [(pool.accepted, pool.nextLabel origin)]
    accepted := pool.accepted + 1 }

/-- Ends a running task, which gives its permit back. -/
def finishTask (pool : Pool) (number : Nat) : Pool :=
  { pool with
    free := pool.free + 1
    tasks := pool.tasks.map fun task =>
      if task.number = number then { task with finished := true } else task }

/-- Forgets a finished task. -/
def joinTask (pool : Pool) (number : Nat) : Pool :=
  { pool with
    tasks := pool.tasks.filter (·.number != number)
    live := pool.live.filter (·.1 != number) }

/-- Aborts every task and ends the loop. -/
def halt (pool : Pool) : Pool :=
  { pool with
    free := pool.free + pool.pendingPermits + pool.running
    accepting := false
    tasks := []
    live := []
    stopped := true }

/-- The pool after a step that can happen. -/
def step? (pool : Pool) (step : Step) : Option Pool :=
  if pool.stopped then none
  else
    match step with
    | .acquire =>
      if !pool.accepting && 0 < pool.free then
        some { pool with free := pool.free - 1, accepting := true }
      else none
    | .accept origin => if pool.accepting then some (pool.start origin) else none
    | .acceptFails => if pool.accepting then some pool.dropPending else none
    | .abandon => some pool.dropPending
    | .finish number _ =>
      if ⟨number, false⟩ ∈ pool.tasks then some (pool.finishTask number) else none
    | .join number =>
      if ⟨number, true⟩ ∈ pool.tasks then some (pool.dropPending.joinTask number) else none
    | .stop => some pool.halt

/-- The pool after steps, as far as each can happen. -/
def run? : Pool → List Step → Option Pool
  | pool, [] => some pool
  | pool, step :: rest =>
    match pool.step? step with
    | some pool => pool.run? rest
    | none => none

/-- The pool after a step, or as it is if the step cannot happen. -/
def stepOrStay (pool : Pool) (step : Step) : Pool :=
  (pool.step? step).getD pool

end Pool

end WordServer
