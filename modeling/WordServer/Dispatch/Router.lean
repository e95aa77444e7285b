import WordServer.Dispatch.Catalog
import WordServer.Dispatch.Failure
import WordServer.Json.Wording

/-!
# Routing messages to handlers

A router maps methods to handlers over a state of their own; of several registrations of a method
the last counts. Every request gets exactly one reply, which carries its identifier; notifications
and replies of the peer get none. A handler sees the params only, so it cannot tell a request from a
notification, and params that are missing or null are an empty object to it.
-/

namespace WordServer

/-- Answers params from a state, and changes it. A handler that fails may have changed it too. -/
abbrev Handler (σ : Type) := Json → σ → Except Failure Json × σ

/-- A handler and whether its method is meant to be answered. -/
structure Route (σ : Type) where
  expectsReply : Bool
  handler : Handler σ

/-- The handlers of a protocol by method. -/
structure Router (σ : Type) where
  routes : Entries (Route σ)

namespace Router

variable {σ : Type}

/-- A router without routes. -/
def empty : Router σ := ⟨[]⟩

/-- Sets the handler of a method. -/
def register (router : Router σ) (method : String) (expectsReply : Bool) (handler : Handler σ) :
    Router σ :=
  ⟨Entries.put method ⟨expectsReply, handler⟩ router.routes⟩

/-- A handler of params that have been read; params that cannot be read are answered with the reason
and leave the state alone. -/
def typed {α : Type} (reason : Json → String) (read : Json → Option α)
    (run : α → σ → Except Failure Json × σ) : Handler σ := fun params state =>
  match read params with
  | some params => run params state
  | none => (.error (.invalidParams (reason params)), state)

/-- Sets the handler of an endpoint of the catalog. -/
def route [Json.Wording] {α : Type} (router : Router σ) (endpoint : Endpoint)
    (read : Json → Option α) (run : α → σ → Except Failure Json × σ) : Router σ :=
  router.register endpoint.method endpoint.isRequest
    (typed (Json.Wording.misfit endpoint.method) read run)

/-- The route of a method. -/
def find? (router : Router σ) (method : String) : Option (Route σ) :=
  Entries.lookup method router.routes

/-- Whether a method has a handler. -/
def contains (router : Router σ) (method : String) : Bool :=
  (router.find? method).isSome

/-- The methods that have a handler, in order. -/
def endpoints (router : Router σ) : List String :=
  Entries.names router.routes

/-- The number of methods that have a handler. -/
def size (router : Router σ) : Nat :=
  router.routes.length

/-- The params that a handler sees. -/
def normalParams : Option Json → Json
  | none | some .null => .obj []
  | some params => params

/-- Calls the handler of a method, if there is one. -/
def call (router : Router σ) (method : String) (params : Option Json) (state : σ) :
    Option (Except Failure Json) × σ :=
  match router.find? method with
  | none => (none, state)
  | some route =>
    let (result, state) := route.handler (normalParams params) state
    (some result, state)

/-- The reply to a request from what its handler gave. -/
def replyTo (id : RequestId) : Option (Except Failure Json) → Message
  | none => .error { id := some id, error := .methodNotFound }
  | some (.ok result) => .response { id, result }
  | some (.error failure) => .error { id := some id, error := failure.errorObject }

/-- Handles a message: the reply, if there is one, and the state after it. -/
def dispatch (router : Router σ) (message : Message) (state : σ) : Option Message × σ :=
  match message with
  | .request request =>
    let (result, state) := router.call request.method request.params state
    (some (replyTo request.id result), state)
  | .notification notification =>
    (none, (router.call notification.method notification.params state).2)
  | .response _ | .error _ => (none, state)

end Router

/-- What a session serves: the handlers, and when the state asks to end. -/
structure Protocol (σ : Type) where
  router : Router σ
  finished : σ → Bool

end WordServer
