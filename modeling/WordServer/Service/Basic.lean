import WordServer.Dispatch.Router
import WordServer.OpenDocuments
import WordServer.Service.Params
import WordServer.Suggester

/-!
# The completion service

The protocol that is served: a lifecycle, the open documents, and completion of the word before the
cursor. Requests outside the lifecycle are refused and document notifications outside it dropped.
-/

namespace WordServer.Service

/-- Where a service stands. -/
inductive Lifecycle where
  | uninitialized
  | running
  | shuttingDown
  | exited
  deriving DecidableEq, Repr

/-- The process whose end ends the client. -/
inductive ClientProcess where
  /-- The client named none; the parent process stands for it. -/
  | parent
  | named (pid : Int)
  deriving DecidableEq, Repr

/-- What a service remembers. -/
structure State where
  lifecycle : Lifecycle := .uninitialized
  documents : OpenDocuments := .empty
  client : Option ClientProcess := none
  trace : String := "off"
  deriving DecidableEq, Repr

/-- The name under which the service presents itself. -/
def serviceName : String := "lsp-lm"

/-- The version that the service presents. -/
def serviceVersion : String := "0.3.0"

/-- Strings of one character each. -/
def singles (cs : List Char) : Json :=
  .arr (cs.map fun c => .str (String.singleton c))

/-- The letters after which a client asks for completions. -/
def triggerLetters : List Char :=
  "abcdefghijklmnopqrstuvwxyzABCDEFGHIJKLMNOPQRSTUVWXYZ".toList

/-- The characters that accept a completion. -/
def commitCharacters : List Char :=
  " !?:;,.".toList

/-- What the service can do and who it is. -/
def introduction : Json :=
  .object [
    ("capabilities", .object [
      ("textDocumentSync", .object [
        ("change", .int 1), ("openClose", .bool true), ("save", .bool true)]),
      ("completionProvider", .object [
        ("triggerCharacters", singles triggerLetters),
        ("allCommitCharacters", singles commitCharacters),
        ("resolveProvider", .bool false)])]),
    ("serverInfo", .object [("name", .str serviceName), ("version", .str serviceVersion)])]

/-- What a handler gives: a result or a failure, and the state after it. -/
abbrev Outcome := Except Failure Json × State

/-- The gate of every request but the first one. -/
def gate (state : State) : Except Failure Unit :=
  match state.lifecycle with
  | .running => .ok ()
  | .uninitialized => .error .notInitialized
  | .shuttingDown | .exited => .error (.badRequest "server is shutting down")

/-- The process that a client names. -/
def clientProcess? : Option Json → Option ClientProcess
  | none => some .parent
  | some value => value.int64?.map .named

/-- Begins, once. -/
def start (params : StartParams) (state : State) : Outcome :=
  if state.lifecycle ≠ .uninitialized then
    (.error (.badRequest "server is already initialized"), state)
  else
    match clientProcess? params.processId with
    | none => (.error (.badParams "processId must be an integer or null"), state)
    | some client =>
      (.ok introduction,
        { state with
          lifecycle := .running, client := some client, trace := params.trace.getD state.trace })

/-- Takes note that the client has begun. -/
def started (_ : Unit) (state : State) : Outcome :=
  (.ok .null, state)

/-- Prepares to end. -/
def shutdown (_ : Unit) (state : State) : Outcome :=
  match gate state with
  | .error failure => (.error failure, state)
  | .ok () => (.ok .null, { state with lifecycle := .shuttingDown })

/-- Ends. -/
def exit (_ : Unit) (state : State) : Outcome :=
  (.ok .null, { state with lifecycle := .exited })

/-- Sets the level of tracing. -/
def setTrace (level : String) (state : State) : Outcome :=
  (.ok .null, { state with trace := level })

/-- A document notification: dropped unless the service is running. -/
def whenRunning (run : State → Outcome) (state : State) : Outcome :=
  if state.lifecycle = .running then run state else (.ok .null, state)

/-- The failure to use a document that is not open. -/
def notOpen (uri : String) : Failure :=
  .internal (notOpenMessage uri) []

/-- Opens a document. -/
def didOpen (document : OpenedDocument) : State → Outcome :=
  whenRunning fun state =>
    (.ok .null,
      { state with
        documents := state.documents.add document.uri document.text document.version })

/-- Makes changes of one document in turn, each of which replaces the whole text; a change of a part
is skipped. Stops at the first that fails: whether all were made, and the documents after those that
were. -/
def applyChanges (uri : String) (version : Option Int) :
    List Change → OpenDocuments → Bool × OpenDocuments
  | [], documents => (true, documents)
  | change :: rest, documents =>
    if change.range.isSome then applyChanges uri version rest documents
    else
      match documents.setText? uri change.text version with
      | none => (false, documents)
      | some documents => applyChanges uri version rest documents

/-- Changes a document. -/
def didChange (params : ChangedDocument) : State → Outcome :=
  whenRunning fun state =>
    let (made, documents) :=
      applyChanges params.uri params.version params.changes state.documents
    (if made then .ok .null else .error (notOpen params.uri), { state with documents })

/-- Closes a document. -/
def didClose (uri : String) : State → Outcome :=
  whenRunning fun state => (.ok .null, { state with documents := state.documents.close uri })

/-- Takes over the text of a saved document, if it is sent. -/
def didSave (params : SavedDocument) : State → Outcome :=
  whenRunning fun state =>
    match params.text with
    | none => (.ok .null, state)
    | some text =>
      match state.documents.setText? params.uri text none with
      | none => (.error (notOpen params.uri), state)
      | some documents => (.ok .null, { state with documents })

/-- A completion as the client gets it. -/
def completionItem (label : String) : Json :=
  .object [("label", .str label)]

/-- Completes the word before the cursor. -/
def completion (suggester : Suggester) (cursor : Cursor) (state : State) : Outcome :=
  match gate state with
  | .error failure => (.error failure, state)
  | .ok () =>
    match state.documents.get? cursor.uri with
    | none => (.error (notOpen cursor.uri), state)
    | some document =>
      (.ok (.arr ((suggester.suggest document cursor.position).map completionItem)), state)

variable [Json.Wording]

/-- The endpoints that are served. -/
def router (suggester : Suggester) : Router State :=
  Router.empty
    |>.route (Catalog.request "initialize") StartParams.read? start
    |>.route (Catalog.notification "initialized") readAnything? started
    |>.route (Catalog.request "shutdown") readAnything? shutdown
    |>.route (Catalog.notification "exit") readAnything? exit
    |>.route (Catalog.notification "$/setTrace") readTrace? setTrace
    |>.route (Catalog.notification "textDocument/didOpen") readOpened? didOpen
    |>.route (Catalog.notification "textDocument/didChange") ChangedDocument.read? didChange
    |>.route (Catalog.notification "textDocument/didClose") readClosed? didClose
    |>.route (Catalog.notification "textDocument/didSave") SavedDocument.read? didSave
    |>.route (Catalog.request "textDocument/completion") Cursor.read? (completion suggester)

/-- Whether the client has asked to end. -/
def exitRequested (state : State) : Bool :=
  state.lifecycle == .exited

/-- The service as a protocol. -/
def protocol (suggester : Suggester) : Protocol State :=
  { router := router suggester, finished := exitRequested }

end WordServer.Service
