import WordServer.Dispatch.Router
import WordServer.Proofs.Entries
import WordServer.Proofs.Message.Classify

/-!
# What a dispatch depends on

A message that calls a method is handled by the route of that method, and of the route only the
handler counts: `call_congr` says that a call depends on the handler, on the params as handlers see
them, and on the state. So a handler cannot tell a request from a notification, missing params from
empty ones, or under which method and as what it was registered (`dispatch_by_handler`); the message
decides only whether there is a reply. That reply has the identifier of the request in the form in
which it came (`RequestId.echoed_verbatim`).
-/

namespace WordServer

/-- The method and the params of a message that calls one. -/
def Message.call? : Message → Option (String × Option Json)
  | .request r => some (r.method, r.params)
  | .notification n => some (n.method, n.params)
  | .response _ | .error _ => none

theorem Message.method?_eq_map_call? (message : Message) :
    message.method? = message.call?.map Prod.fst := by
  cases message <;> rfl

namespace Router

variable {σ : Type}

@[simp]
theorem find?_empty (method : String) : (empty : Router σ).find? method = none := rfl

theorem find?_register (router : Router σ) (name : String) (expectsReply : Bool)
    (handler : Handler σ) (method : String) :
    (router.register name expectsReply handler).find? method =
      if method = name then some ⟨expectsReply, handler⟩ else router.find? method := by
  simp only [find?, register, Entries.lookup_put, eq_comm]

theorem find?_route [Json.Wording] {α : Type} (router : Router σ) (endpoint : Endpoint)
    (read : Json → Option α) (run : α → σ → Except Failure Json × σ) (method : String) :
    (router.route endpoint read run).find? method =
      if method = endpoint.method then
        some ⟨endpoint.isRequest, typed (Json.Wording.misfit endpoint.method) read run⟩
      else router.find? method :=
  find?_register router endpoint.method endpoint.isRequest _ method

/-- What the handler of a message gives, if the message calls one. -/
def result? (router : Router σ) (message : Message) (state : σ) : Option (Except Failure Json) :=
  message.call?.bind fun call => (router.call call.1 call.2 state).1

/-- A request is answered with what its handler gives, and nothing else is answered. -/
theorem reply_dispatch (router : Router σ) (message : Message) (state : σ) :
    (router.dispatch message state).1 =
      match message with
      | .request r => some (replyTo r.id (router.result? message state))
      | _ => none := by
  cases message <;> rfl

/-- The state after a message is the one that its handler leaves. -/
theorem state_dispatch (router : Router σ) (message : Message) (state : σ) :
    (router.dispatch message state).2 =
      message.call?.elim state fun call => (router.call call.1 call.2 state).2 := by
  cases message <;> rfl

theorem id?_replyTo (id : RequestId) (result : Option (Except Failure Json)) :
    (replyTo id result).id? = some id ∧ (replyTo id result).method? = none := by
  match result with
  | none => exact ⟨rfl, rfl⟩
  | some (.ok value) => exact ⟨rfl, rfl⟩
  | some (.error failure) => exact ⟨rfl, rfl⟩

theorem member?_id_replyTo (id : RequestId) (result : Option (Except Failure Json)) :
    (replyTo id result).toJson.member? "id" = some id.toJson := by
  match result with
  | none => rfl
  | some (.ok value) => rfl
  | some (.error failure) => rfl

/-! ## Calls depend on handlers -/

/-- The handler of a method, without what it was registered as. -/
def handler? (router : Router σ) (method : String) : Option (Handler σ) :=
  (router.find? method).map Route.handler

@[simp]
theorem handler?_register_self (router : Router σ) (method : String) (expectsReply : Bool)
    (handler : Handler σ) :
    (router.register method expectsReply handler).handler? method = some handler := by
  rw [handler?, find?_register, if_pos rfl]
  rfl

theorem call_eq (router : Router σ) (method : String) (params : Option Json) (state : σ) :
    router.call method params state =
      match router.handler? method with
      | none => (none, state)
      | some handler => Prod.map some id (handler (normalParams params) state) := by
  unfold call handler?
  cases router.find? method <;> rfl

/-- **A call depends on its handler**, on the params that the handler sees, and on the state. -/
theorem call_congr {router other : Router σ} {method name : String} {params others : Option Json}
    (hhandler : router.handler? method = other.handler? name)
    (hparams : normalParams params = normalParams others) (state : σ) :
    router.call method params state = other.call name others state := by
  rw [call_eq, call_eq, hhandler, hparams]

section Congruence

variable {router other : Router σ} {state : σ}

theorem dispatch_request_congr {request asked : Request} (hid : request.id = asked.id)
    (hcall : router.call request.method request.params state =
      other.call asked.method asked.params state) :
    router.dispatch (.request request) state = other.dispatch (.request asked) state := by
  simp only [dispatch, hid, hcall]

theorem dispatch_notification_congr {notification told : Notification}
    (hcall : router.call notification.method notification.params state =
      other.call told.method told.params state) :
    router.dispatch (.notification notification) state =
      other.dispatch (.notification told) state := by
  simp only [dispatch, hcall]

/-- Routers with the same handlers do the same with every message. -/
theorem dispatch_congr (h : ∀ method, router.handler? method = other.handler? method)
    (message : Message) (state : σ) :
    router.dispatch message state = other.dispatch message state := by
  cases message with
  | request request => exact dispatch_request_congr rfl (call_congr (h request.method) rfl state)
  | notification notification =>
    exact dispatch_notification_congr (call_congr (h notification.method) rfl state)
  | response response => rfl
  | error reply => rfl

end Congruence

/-- Params that say nothing: missing, null or an object without members. -/
def emptyParams : List (Option Json) := [none, some .null, some (.obj [])]

theorem normalParams_eq_of_mem {params : Option Json} (h : params ∈ emptyParams) :
    normalParams params = .obj [] := by
  simp only [emptyParams, List.mem_cons, List.not_mem_nil, or_false] at h
  rcases h with rfl | rfl | rfl <;> rfl

/-- Params that are left out or null are an empty object, and all others are as they come. -/
theorem normalParams_eq_iff {params : Option Json} {value : Json} :
    normalParams params = value ↔
      (params = none ∨ params = some .null) ∧ value = .obj [] ∨
        params = some value ∧ value ≠ .null := by
  cases params with
  | none => simp [normalParams, eq_comm]
  | some given =>
    cases given with
    | null => simp [normalParams, eq_comm]
    | _ =>
      simp only [normalParams, reduceCtorEq, Option.some.injEq, or_self, false_and, false_or]
      refine ⟨fun h => ⟨h, ?_⟩, And.left⟩
      rintro rfl
      cases h

/-! ## What a request is answered with -/

/-- The reply to a request and the state after it, by what the handler of its method does. -/
inductive Handles (router : Router σ) (request : Request) (state : σ) : Message → σ → Prop
  | unrouted (hroute : router.handler? request.method = none) :
      Handles router request state
        (.error { id := some request.id, error := .methodNotFound }) state
  | result {handler : Handler σ} {result : Json} {after : σ}
      (hroute : router.handler? request.method = some handler)
      (hrun : handler (normalParams request.params) state = (.ok result, after)) :
      Handles router request state (.response { id := request.id, result }) after
  | failure {handler : Handler σ} {failure : Failure} {error : ErrorObject} {after : σ}
      (hroute : router.handler? request.method = some handler)
      (hrun : handler (normalParams request.params) state = (.error failure, after))
      (hcode : error.code = failure.code) :
      Handles router request state (.error { id := some request.id, error }) after

theorem handles_dispatch (router : Router σ) (request : Request) (state : σ) :
    ∃ reply after, router.dispatch (.request request) state = (some reply, after) ∧
      router.Handles request state reply after := by
  refine ⟨replyTo request.id (router.call request.method request.params state).1,
    (router.call request.method request.params state).2, rfl, ?_⟩
  rw [call_eq]
  cases hroute : router.handler? request.method with
  | none => exact .unrouted hroute
  | some handler =>
    dsimp only
    rcases hrun : handler (normalParams request.params) state with ⟨result, after⟩
    cases result with
    | ok result => exact .result hroute hrun
    | error failure => exact .failure hroute hrun failure.code_errorObject

theorem Handles.id?_eq {router : Router σ} {request : Request} {state after : σ} {reply : Message}
    (h : router.Handles request state reply after) : reply.id? = some request.id := by
  cases h <;> rfl

/-- A notification leaves the state that a request with its method and params leaves. -/
theorem dispatch_notification (router : Router σ) (request : Request) (version : String)
    (state : σ) :
    router.dispatch
        (.notification { version, method := request.method, params := request.params }) state =
      (none, (router.dispatch (.request request) state).2) := rfl

/-- **A handler cannot tell how it was called.** A request gets exactly one reply, which has its
identifier and says what the handler of its method did; the notification with its method and params
gets none and leaves the same state. Missing params, null and the empty object do the same. Routers
with the same handlers do the same with every message, whatever their routes were registered as, and
a handler does the same under any two methods, in the catalog or not. Replies of the peer do
nothing. -/
theorem dispatch_by_handler (router : Router σ) (state : σ) :
    (∀ (request : Request) (version : String), ∃ reply after,
      router.dispatch (.request request) state = (some reply, after) ∧
      router.dispatch
        (.notification { version, method := request.method, params := request.params }) state =
          (none, after) ∧
      reply.id? = some request.id ∧ router.Handles request state reply after) ∧
    (∀ params ∈ emptyParams, ∀ others ∈ emptyParams,
      (∀ request : Request, router.dispatch (.request { request with params }) state =
        router.dispatch (.request { request with params := others }) state) ∧
      ∀ notification : Notification,
        router.dispatch (.notification { notification with params }) state =
          router.dispatch (.notification { notification with params := others }) state) ∧
    (∀ other : Router σ, (∀ method, router.handler? method = other.handler? method) →
      ∀ message, router.dispatch message state = other.dispatch message state) ∧
    (∀ (other : Router σ) (handler : Handler σ) (method name : String)
        (expectsReply expectsOther : Bool),
      (∀ request : Request,
        (router.register method expectsReply handler).dispatch
            (.request { request with method }) state =
          (other.register name expectsOther handler).dispatch
            (.request { request with method := name }) state) ∧
      ∀ notification : Notification,
        (router.register method expectsReply handler).dispatch
            (.notification { notification with method }) state =
          (other.register name expectsOther handler).dispatch
            (.notification { notification with method := name }) state) ∧
    (∀ response, router.dispatch (.response response) state = (none, state)) ∧
    ∀ reply, router.dispatch (.error reply) state = (none, state) := by
  refine ⟨?_, ?_, fun other h message => dispatch_congr h message state, ?_, fun _ => rfl,
    fun _ => rfl⟩
  · intro request version
    obtain ⟨reply, after, hdispatch, hhandles⟩ := handles_dispatch router request state
    refine ⟨reply, after, hdispatch, ?_, hhandles.id?_eq, hhandles⟩
    rw [dispatch_notification, hdispatch]
  · intro params hparams others hothers
    have hsame : normalParams params = normalParams others := by
      rw [normalParams_eq_of_mem hparams, normalParams_eq_of_mem hothers]
    constructor
    · intro request
      apply dispatch_request_congr
      · rfl
      · exact call_congr rfl hsame state
    · intro notification
      apply dispatch_notification_congr
      exact call_congr rfl hsame state
  · intro other handler method name expectsReply expectsOther
    have hsame : (router.register method expectsReply handler).handler? method =
        (other.register name expectsOther handler).handler? name := by
      rw [handler?_register_self, handler?_register_self]
    constructor
    · intro request
      apply dispatch_request_congr
      · rfl
      · exact call_congr hsame rfl state
    · intro notification
      apply dispatch_notification_congr
      exact call_congr hsame rfl state

end Router

/-! ## Identifiers come back -/

theorem member?_id_of_classify {value : Json} {request : Request}
    (h : classify value = .ok (.request request)) :
    value.member? "id" = some request.id.toJson := by
  obtain ⟨members, rfl, hsay⟩ := classify_eq_ok_iff.1 h
  cases hsay with
  | request _ _ hid => exact hid.lookup_id

theorem Router.exists_reply_of_classify {σ : Type} {value : Json} {request : Request}
    (h : classify value = .ok (.request request)) (router : Router σ) (state : σ) :
    ∃ reply, (router.dispatch (.request request) state).1 = some reply ∧
      reply.toJson.member? "id" = value.member? "id" := by
  refine ⟨_, rfl, ?_⟩
  rw [member?_id_replyTo, member?_id_of_classify h]

/-- **Identifiers are echoed verbatim.** Both ways to read an identifier agree on every value; they
succeed exactly on strings and on integers of 64 bits, signed or unsigned, so that a number that is
no integer literal never is one; and an identifier that was read is written as the value it was read
from, and read from that again. So the reply to a request has the `id` that the request had, and
requests with different ones get replies with different ones. -/
theorem RequestId.echoed_verbatim :
    (∀ value : Json,
      read? value = ofJson? value ∧
      ((ofJson? value).isSome ↔ value.NamesRequest) ∧
      ∀ id, ofJson? value = some id → id.toJson = value ∧ ofJson? id.toJson = some id) ∧
    ∀ (σ : Type) (router : Router σ) (first second : Json) (request next : Request)
      (state later : σ),
      classify first = .ok (.request request) → classify second = .ok (.request next) →
      ∃ reply answer,
        (router.dispatch (.request request) state).1 = some reply ∧
        (router.dispatch (.request next) later).1 = some answer ∧
        reply.toJson.member? "id" = first.member? "id" ∧
        answer.toJson.member? "id" = second.member? "id" ∧
        (first.member? "id" ≠ second.member? "id" →
          reply.toJson.member? "id" ≠ answer.toJson.member? "id") := by
  constructor
  · intro value
    refine ⟨read?_eq_ofJson? value, isSome_ofJson?_iff value, ?_⟩
    intro id hid
    obtain ⟨hcanonical, hwritten⟩ := ofJson?_eq_some_iff.1 hid
    exact ⟨hwritten, ofJson?_toJson hcanonical⟩
  · intro σ router first second request next state later hfirst hsecond
    obtain ⟨reply, hreply, hecho⟩ := router.exists_reply_of_classify hfirst state
    obtain ⟨answer, hanswer, hanswered⟩ := router.exists_reply_of_classify hsecond later
    refine ⟨reply, answer, hreply, hanswer, hecho, hanswered, ?_⟩
    intro hne hsame
    rw [hecho, hanswered] at hsame
    exact hne hsame

end WordServer
