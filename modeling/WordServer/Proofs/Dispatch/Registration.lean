import Mathlib.Data.Finset.Card
import Mathlib.Data.List.Induction
import WordServer.Proofs.Dispatch.Router

/-!
# A router as a map of its last registrations

A router is built by registrations, each of which sets the route of one method. One step of this
overwrites that route and leaves all others alone (`find?_apply`), so a method has the route of its
last registration (`find?_ofRegistrations`), and the routes stay in order, each method once
(`ordered_ofRegistrations`).

A dispatch asks for handlers only, so routers whose methods have the same last handlers cannot be
told apart by any message in any state (`ofRegistrations_last_wins`).
-/

namespace WordServer

/-- What sets the handler of a method: a handler of params as they come, or for an endpoint of the
catalog one of params that have been read. -/
inductive Registration (σ : Type) : Type 1 where
  | plain (method : String) (expectsReply : Bool) (handler : Handler σ)
  | typed {α : Type} (endpoint : Endpoint) (read : Json → Option α)
      (run : α → σ → Except Failure Json × σ)

namespace Registration

variable {σ : Type}

def method : Registration σ → String
  | .plain method _ _ => method
  | .typed endpoint _ _ => endpoint.method

def route [Json.Wording] : Registration σ → Route σ
  | .plain _ expectsReply handler => ⟨expectsReply, handler⟩
  | .typed endpoint read run =>
    ⟨endpoint.isRequest, Router.typed (Json.Wording.misfit endpoint.method) read run⟩

def last? (method : String) (registrations : List (Registration σ)) : Option (Registration σ) :=
  (registrations.filter (·.method = method)).getLast?

/-- The handler that was registered last for a method. -/
def lastHandler? [Json.Wording] (method : String) (registrations : List (Registration σ)) : Option (Handler σ) :=
  (last? method registrations).map fun registration => registration.route.handler

theorem last?_concat (method : String) (registrations : List (Registration σ))
    (registration : Registration σ) :
    last? method (registrations ++ [registration]) =
      if method = registration.method then some registration else last? method registrations := by
  unfold last?
  rw [List.filter_append]
  by_cases hmethod : registration.method = method
  · simp [hmethod]
  · simp [hmethod, Ne.symm hmethod]

theorem isSome_last?_iff {method : String} {registrations : List (Registration σ)} :
    (last? method registrations).isSome ↔ method ∈ registrations.map Registration.method := by
  unfold last?
  rw [List.getLast?_isSome, List.mem_map, Ne, List.filter_eq_nil_iff]
  simp

end Registration

namespace Router

open Registration (last? lastHandler?)

variable {σ : Type}

theorem mem_endpoints_iff {router : Router σ} {method : String} :
    method ∈ router.endpoints ↔ router.contains method = true :=
  (Entries.isSome_lookup_iff method router.routes).symm

/-- The methods of a router in order are as many as it has routes. -/
theorem size_eq_card {router : Router σ} (h : Entries.Ordered router.routes) :
    router.size = router.endpoints.toFinset.card := by
  have hcard : router.endpoints.toFinset.card = router.endpoints.length :=
    List.toFinset_card_of_nodup h.nodup
  rw [hcard, endpoints, Entries.names, List.length_map, size]

/-! ## The router of registrations -/

variable [Json.Wording]

def apply (router : Router σ) : Registration σ → Router σ
  | .plain method expectsReply handler => router.register method expectsReply handler
  | .typed endpoint read run => router.route endpoint read run

/-- The router that registrations make, one after the other. -/
def ofRegistrations (registrations : List (Registration σ)) : Router σ :=
  registrations.foldl apply empty

theorem find?_apply (router : Router σ) (registration : Registration σ) (method : String) :
    (router.apply registration).find? method =
      if method = registration.method then some registration.route else router.find? method := by
  cases registration with
  | plain name expectsReply handler => exact find?_register router name expectsReply handler method
  | typed endpoint read run => exact find?_route router endpoint read run method

theorem ordered_apply {router : Router σ} (h : Entries.Ordered router.routes)
    (registration : Registration σ) : Entries.Ordered (router.apply registration).routes := by
  cases registration with
  | plain method expectsReply handler => exact h.put method _
  | typed endpoint read run => exact h.put endpoint.method _

theorem ofRegistrations_concat (registrations : List (Registration σ))
    (registration : Registration σ) :
    ofRegistrations (registrations ++ [registration]) =
      (ofRegistrations registrations).apply registration :=
  List.foldl_concat apply empty registration registrations

/-- **A method has the route of its last registration**, and none without one. -/
theorem find?_ofRegistrations (registrations : List (Registration σ)) (method : String) :
    (ofRegistrations registrations).find? method =
      (last? method registrations).map Registration.route := by
  -- from the back: the last registration overwrites the route that its method had
  induction registrations using List.reverseRecOn with
  | nil => rfl
  | append_singleton registrations registration ih =>
    rw [ofRegistrations_concat, find?_apply, Registration.last?_concat, ih]
    split
    · rfl
    · rfl

theorem ordered_ofRegistrations (registrations : List (Registration σ)) :
    Entries.Ordered (ofRegistrations registrations).routes := by
  induction registrations using List.reverseRecOn with
  | nil => exact List.Pairwise.nil
  | append_singleton registrations registration ih =>
    rw [ofRegistrations_concat]
    exact ordered_apply ih registration

theorem handler?_ofRegistrations (registrations : List (Registration σ)) (method : String) :
    (ofRegistrations registrations).handler? method = lastHandler? method registrations := by
  rw [handler?, find?_ofRegistrations, lastHandler?, Option.map_map]
  rfl

theorem contains_ofRegistrations_iff {registrations : List (Registration σ)} {method : String} :
    (ofRegistrations registrations).contains method = true ↔
      method ∈ registrations.map Registration.method := by
  rw [contains, find?_ofRegistrations, Option.isSome_map, Registration.isSome_last?_iff]

/-- **The last registration of a method wins.** However registrations follow each other, the router
lists each registered method exactly once and no other, is as large as there are different methods,
and contains the registered ones. It depends on the last handler of each method alone: registrations
with the same last handlers, in whatever order, whatever they overwrite and whatever the routes are
registered as, make routers that give the same reply to every message in every state, and leave the
same state. -/
theorem ofRegistrations_last_wins (registrations : List (Registration σ)) :
    let router := ofRegistrations registrations
    let methods := registrations.map Registration.method
    router.endpoints.Nodup ∧
    (∀ method, method ∈ router.endpoints ↔ method ∈ methods) ∧
    router.size = methods.toFinset.card ∧
    (∀ method, router.contains method = true ↔ method ∈ methods) ∧
    ∀ others : List (Registration σ),
      (∀ method, lastHandler? method registrations = lastHandler? method others) →
      ∀ message state,
        router.dispatch message state = (ofRegistrations others).dispatch message state := by
  intro router methods
  have hordered : Entries.Ordered router.routes := ordered_ofRegistrations registrations
  have hcontains : ∀ method, router.contains method = true ↔ method ∈ methods :=
    fun _ => contains_ofRegistrations_iff
  have hendpoints : ∀ method, method ∈ router.endpoints ↔ method ∈ methods :=
    fun method => mem_endpoints_iff.trans (hcontains method)
  refine ⟨hordered.nodup, hendpoints, ?_, hcontains, ?_⟩
  · rw [size_eq_card hordered]
    congr 1
    ext method
    rw [List.mem_toFinset, List.mem_toFinset, hendpoints]
  · intro others hlast message state
    refine dispatch_congr (fun method => ?_) message state
    rw [handler?_ofRegistrations, handler?_ofRegistrations, hlast]

end Router

end WordServer
