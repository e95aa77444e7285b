import WordServer.Proofs.Dispatch.Router
import WordServer.Service.Basic

/-!
# Calls of the service

A message calls an endpoint with params that are read first. `Call` is an endpoint with its params
as they were read, `callOf?` the call that a message makes, and `Call.run` what the handler does, so
that a property of the service is a property of ten calls: a message does what its call does, is
refused where its params cannot be read, and does nothing where no endpoint has its method
(`result?_eq`, `state_dispatch_eq`).

A message that fails changes nothing (`dispatch_of_failure`). Only a batch of changes could do
otherwise, since it stops at the first change that fails; but its document is open for all changes
of the batch or for none (`applyChanges_of_open`, `applyChanges_of_not_open`).
-/

namespace WordServer.Service

/-! ## The call of a message -/

/-- A call of an endpoint, with its params as they are read. -/
inductive Call where
  | start (params : StartParams)
  | started
  | shutdown
  | exit
  | setTrace (level : String)
  | didOpen (document : OpenedDocument)
  | didChange (params : ChangedDocument)
  | didClose (uri : String)
  | didSave (params : SavedDocument)
  | completion (cursor : Cursor)

namespace Call

/-- What the handler of a call does. -/
def run (suggester : Suggester) : Call → State → Outcome
  | .start params => Service.start params
  | .started => Service.started ()
  | .shutdown => Service.shutdown ()
  | .exit => Service.exit ()
  | .setTrace level => Service.setTrace level
  | .didOpen document => Service.didOpen document
  | .didChange params => Service.didChange params
  | .didClose uri => Service.didClose uri
  | .didSave params => Service.didSave params
  | .completion cursor => Service.completion suggester cursor

/-- How the params of each method are read. -/
def readers : List (String × (Json → Option Call)) :=
  [ ("initialize", fun params => (StartParams.read? params).map .start),
    ("initialized", fun params => (readAnything? params).map fun _ => .started),
    ("shutdown", fun params => (readAnything? params).map fun _ => .shutdown),
    ("exit", fun params => (readAnything? params).map fun _ => .exit),
    ("$/setTrace", fun params => (readTrace? params).map .setTrace),
    ("textDocument/didOpen", fun params => (readOpened? params).map .didOpen),
    ("textDocument/didChange", fun params => (ChangedDocument.read? params).map .didChange),
    ("textDocument/didClose", fun params => (readClosed? params).map .didClose),
    ("textDocument/didSave", fun params => (SavedDocument.read? params).map .didSave),
    ("textDocument/completion", fun params => (Cursor.read? params).map .completion) ]

/-- What a handler gives for params that are read as a call, or cannot be read for a reason. -/
def respond (suggester : Suggester) (state : State) (reason : String) : Option Call → Outcome
  | some call => call.run suggester state
  | none => (.error (.invalidParams reason), state)

end Call

/-- The call that a message makes, if its method has an endpoint; inside, whether its params could
be read. -/
def callOf? (message : Message) : Option (Option Call) :=
  message.call?.bind fun call =>
    (Entries.lookup call.1 Call.readers).map fun read => read (Router.normalParams call.2)

theorem callOf?_of_call? {message : Message} {method : String} {params : Option Json}
    (h : message.call? = some (method, params)) :
    callOf? message =
      (Entries.lookup method Call.readers).map fun read => read (Router.normalParams params) := by
  rw [callOf?, h, Option.bind_some]

theorem exists_call?_of_method? {message : Message} {method : String}
    (h : message.method? = some method) : ∃ params, message.call? = some (method, params) := by
  rw [Message.method?_eq_map_call?] at h
  obtain ⟨⟨_, params⟩, hcall, rfl⟩ := Option.map_eq_some_iff.1 h
  exact ⟨params, hcall⟩

/-- The method of a call. -/
def Call.method : Call → String
  | .start _ => "initialize"
  | .started => "initialized"
  | .shutdown => "shutdown"
  | .exit => "exit"
  | .setTrace _ => "$/setTrace"
  | .didOpen _ => "textDocument/didOpen"
  | .didChange _ => "textDocument/didChange"
  | .didClose _ => "textDocument/didClose"
  | .didSave _ => "textDocument/didSave"
  | .completion _ => "textDocument/completion"

theorem method_of_reader {method : String} {read : Json → Option Call} {params : Json} {call : Call}
    (hread : Entries.lookup method Call.readers = some read) (hcall : read params = some call) :
    call.method = method := by
  have hmem := Entries.mem_of_lookup hread
  simp only [Call.readers, List.mem_cons, List.not_mem_nil, or_false, Prod.mk.injEq] at hmem
  rcases hmem with ⟨rfl, rfl⟩ | ⟨rfl, rfl⟩ | ⟨rfl, rfl⟩ | ⟨rfl, rfl⟩ | ⟨rfl, rfl⟩ | ⟨rfl, rfl⟩ |
    ⟨rfl, rfl⟩ | ⟨rfl, rfl⟩ | ⟨rfl, rfl⟩ | ⟨rfl, rfl⟩ <;>
  · obtain ⟨params, -, rfl⟩ := Option.map_eq_some_iff.1 hcall
    rfl

theorem method?_of_callOf? {message : Message} {call : Call}
    (h : callOf? message = some (some call)) : message.method? = some call.method := by
  obtain ⟨⟨method, params⟩, hcall, h⟩ := Option.bind_eq_some_iff.1 h
  obtain ⟨read, hread, h⟩ := Option.map_eq_some_iff.1 h
  rw [Message.method?_eq_map_call?, hcall, method_of_reader hread h]
  rfl

/-- A handler of params that have been read makes the call of its endpoint. -/
theorem typed_eq_respond {suggester : Suggester} {α : Type} {reason : Json → String}
    {read : Json → Option α} {run : α → State → Outcome} (make : α → Call)
    (hrun : ∀ params state, run params state = (make params).run suggester state) :
    Router.typed reason read run = fun params state =>
      Call.respond suggester state (reason params) ((read params).map make) := by
  funext params state
  cases hread : read params with
  | none => simp [Router.typed, Call.respond, hread]
  | some value => simp [Router.typed, Call.respond, hread, hrun]

section Wording

variable [Json.Wording]

/-- What the JSON reader says of the params of a message, where they cannot be read. -/
def misfitOf (message : Message) : String :=
  message.call?.elim "" fun call => Json.Wording.misfit call.1 (Router.normalParams call.2)

/-- The router has a handler for each reader, and no other. -/
theorem handler?_router (suggester : Suggester) (method : String) :
    (router suggester).handler? method =
      (Entries.lookup method Call.readers).map fun read params state =>
        Call.respond suggester state (Json.Wording.misfit method params) (read params) := by
  unfold Router.handler?
  by_cases hmethod : method ∈ Entries.names Call.readers
  · simp only [Entries.names, Call.readers, List.map_cons, List.map_nil, List.mem_cons,
      List.not_mem_nil, or_false] at hmethod
    -- A literal method selects one route and one reader, which is the reader of that route.
    rcases hmethod with h | h | h | h | h | h | h | h | h | h <;> subst h <;>
      simp [router, Router.find?_route, Catalog.request, Catalog.notification, Call.readers,
        Entries.lookup]
    all_goals exact typed_eq_respond _ fun _ _ => rfl
  · have hroute : (router suggester).find? method = none := by
      simp only [Entries.names, Call.readers, List.map_cons, List.map_nil, List.mem_cons,
        List.not_mem_nil, or_false, not_or] at hmethod
      simp [router, Router.find?_route, Catalog.request, Catalog.notification, hmethod]
    rw [Entries.lookup_eq_none hmethod, hroute]
    rfl

theorem call_router (suggester : Suggester) (method : String) (params : Option Json)
    (state : State) :
    (router suggester).call method params state =
      match Entries.lookup method Call.readers with
      | none => (none, state)
      | some read =>
        let outcome := Call.respond suggester state
          (Json.Wording.misfit method (Router.normalParams params))
          (read (Router.normalParams params))
        (some outcome.1, outcome.2) := by
  rw [Router.call_eq, handler?_router]
  cases Entries.lookup method Call.readers <;> rfl

/-- What a message gives is what its call gives. -/
theorem result?_eq (suggester : Suggester) (message : Message) (state : State) :
    (router suggester).result? message state =
      (callOf? message).map fun call =>
        (Call.respond suggester state (misfitOf message) call).1 := by
  unfold Router.result? callOf? misfitOf
  cases message.call? with
  | none => rfl
  | some call =>
    simp only [Option.bind_some, call_router]
    cases Entries.lookup call.1 Call.readers <;> rfl

/-- **A message does what its call does**, and nothing where it makes none. -/
theorem state_dispatch_eq (suggester : Suggester) (message : Message) (state : State) :
    ((router suggester).dispatch message state).2 =
      (callOf? message).elim state fun call =>
        (Call.respond suggester state (misfitOf message) call).2 := by
  rw [Router.state_dispatch]
  unfold callOf? misfitOf
  cases message.call? with
  | none => rfl
  | some call =>
    simp only [Option.elim_some, Option.bind_some, call_router]
    cases Entries.lookup call.1 Call.readers <;> rfl

/-- A request is answered with what its call gives. -/
theorem dispatch_request {suggester : Suggester} {request : Request} {call : Option Call}
    (hcall : callOf? (.request request) = some call) (state : State) :
    let outcome := Call.respond suggester state (misfitOf (.request request)) call
    (router suggester).dispatch (.request request) state =
      (some (Router.replyTo request.id (some outcome.1)), outcome.2) := by
  refine Prod.ext ?_ ?_
  · rw [Router.reply_dispatch, result?_eq, hcall]
    rfl
  · rw [state_dispatch_eq, hcall]
    rfl

end Wording

/-! ## A call that fails -/

theorem get?_of_setText? {documents changed : OpenDocuments} {uri text : String}
    {version : Option Int} (h : documents.setText? uri text version = some changed) :
    (changed.get? uri).isSome := by
  obtain ⟨document, -, rfl⟩ := Option.map_eq_some_iff.1 h
  simp [OpenDocuments.get?]

/-- Every change of a document that is open is made: it stays open. -/
theorem applyChanges_of_open {uri : String} (version : Option Int) (changes : List Change)
    {documents : OpenDocuments} (hopen : (documents.get? uri).isSome) :
    (applyChanges uri version changes documents).1 = true := by
  induction changes generalizing documents with
  | nil => rfl
  | cons change changes ih =>
    rw [applyChanges]
    split
    · exact ih hopen
    · obtain ⟨document, hdocument⟩ := Option.isSome_iff_exists.1 hopen
      cases hset : documents.setText? uri change.text version with
      | none => simp [OpenDocuments.setText?, hdocument] at hset
      | some changed => exact ih (get?_of_setText? hset)

/-- No change of a document that is not open is made. -/
theorem applyChanges_of_not_open {uri : String} (version : Option Int) (changes : List Change)
    {documents : OpenDocuments} (hclosed : documents.get? uri = none) :
    (applyChanges uri version changes documents).2 = documents := by
  induction changes with
  | nil => rfl
  | cons change changes ih =>
    rw [applyChanges]
    split
    · exact ih
    · simp [OpenDocuments.setText?, hclosed]

/-- **A batch of changes that fails changes no document.** -/
theorem applyChanges_of_failed {uri : String} {version : Option Int} {changes : List Change}
    {documents : OpenDocuments} (hfailed : (applyChanges uri version changes documents).1 = false) :
    (applyChanges uri version changes documents).2 = documents := by
  cases hdocument : documents.get? uri with
  | none => exact applyChanges_of_not_open version changes hdocument
  | some document =>
    have hmade := applyChanges_of_open version changes (Option.isSome_of_eq_some hdocument)
    rw [hfailed] at hmade
    cases hmade

theorem state_whenRunning_of_error {run : State → Outcome} {state : State} {failure : Failure}
    (hrun : (run state).1 = .error failure → (run state).2 = state)
    (h : (whenRunning run state).1 = .error failure) : (whenRunning run state).2 = state := by
  unfold whenRunning at h ⊢
  split at h
  · rename_i hrunning
    rw [if_pos hrunning]
    exact hrun h
  · cases h

/-- **A call that fails leaves the state alone.** -/
theorem Call.state_of_error {suggester : Suggester} {call : Call} {state : State}
    {failure : Failure} (h : (call.run suggester state).1 = .error failure) :
    (call.run suggester state).2 = state := by
  cases call with
  | start params =>
    simp only [run, Service.start] at h ⊢
    split at h
    · rename_i hbegun
      rw [if_pos hbegun]
    · rename_i hbegun
      rw [if_neg hbegun]
      cases hclient : clientProcess? params.processId with
      | none => rfl
      | some client => simp [hclient] at h
  | started => rfl
  | shutdown =>
    simp only [run, Service.shutdown] at h ⊢
    cases hgate : gate state with
    | error failure => rfl
    | ok _ => simp [hgate] at h
  | exit => cases h
  | setTrace level => cases h
  | didOpen document => exact state_whenRunning_of_error (fun h => nomatch h) h
  | didChange params =>
    refine state_whenRunning_of_error (fun h => ?_) h
    cases hmade : (applyChanges params.uri params.version params.changes state.documents).1 with
    | true => simp [hmade] at h
    | false => simp [applyChanges_of_failed hmade]
  | didClose uri => exact state_whenRunning_of_error (fun h => nomatch h) h
  | didSave params =>
    refine state_whenRunning_of_error (fun h => ?_) h
    cases htext : params.text with
    | none => simp [htext] at h
    | some text =>
      cases hset : state.documents.setText? params.uri text none with
      | none => simp [hset]
      | some changed => simp [htext, hset] at h
  | completion cursor =>
    simp only [run, Service.completion] at h ⊢
    cases gate state with
    | error failure => rfl
    | ok _ => cases state.documents.get? cursor.uri <;> rfl

theorem Call.state_respond_of_error {suggester : Suggester} {call : Option Call} {state : State}
    {reason : String} {failure : Failure}
    (h : (respond suggester state reason call).1 = .error failure) :
    (respond suggester state reason call).2 = state := by
  cases call with
  | none => rfl
  | some call => exact state_of_error h

/-- **A message that fails changes nothing**: whatever its endpoint, its params and the state, a
message whose handler gives a failure leaves the whole state as it was; a request is told of the
failure, and a notification is not answered. -/
theorem dispatch_of_failure [Json.Wording] (suggester : Suggester) (message : Message) (state : State)
    (failure : Failure)
    (hfailure : (router suggester).result? message state = some (.error failure)) :
    ((router suggester).dispatch message state).2 = state ∧
      ((router suggester).dispatch message state).1 =
        match message with
        | .request r => some (.error { id := some r.id, error := failure.errorObject })
        | _ => none := by
  constructor
  · rw [result?_eq] at hfailure
    obtain ⟨call, hcall, herror⟩ := Option.map_eq_some_iff.1 hfailure
    rw [state_dispatch_eq, hcall]
    exact Call.state_respond_of_error herror
  · rw [Router.reply_dispatch, hfailure]
    cases message <;> rfl

/-- A state with one open document. -/
def withLetter : State :=
  { lifecycle := .running
    documents := OpenDocuments.empty.add "file:///letter" "Dear" 1
    client := some (.named 7) }

/-- A change of a part and a change of the whole text, of a document that is not open. -/
def strayChanges : Message :=
  .notification
    { method := "textDocument/didChange"
      params := some (.obj [
        ("contentChanges", .arr [
          .obj [("range", .obj []), ("text", .str "a")], .obj [("text", .str "b")]]),
        ("textDocument", .obj [("uri", .str "file:///note"), ("version", .int 2)])]) }

theorem dispatch_strayChanges :
    (router .silent).result? strayChanges withLetter = some (.error (notOpen "file:///note")) ∧
      ((router .silent).dispatch strayChanges withLetter).2 = withLetter ∧
      ((router .silent).dispatch strayChanges withLetter).1 = none := by
  have hfailure : (router .silent).result? strayChanges withLetter =
      some (.error (notOpen "file:///note")) := by
    rw [result?_eq]
    rfl
  exact ⟨hfailure, dispatch_of_failure .silent strayChanges withLetter _ hfailure⟩

end WordServer.Service
