import WordServer.Json.Basic
import WordServer.Text.Caseless

/-!
# The catalog of endpoints

Every endpoint of the protocol by area, each a request or a notification. Which of them are served
is a matter of the router.
-/

namespace WordServer

/-- A method and whether it is answered. -/
structure Endpoint where
  method : String
  isRequest : Bool
  deriving DecidableEq, Repr

/-- An area of the protocol. -/
structure EndpointGroup where
  name : String
  endpoints : List Endpoint
  deriving DecidableEq, Repr

namespace Catalog

/-- A method that is answered. -/
def request (method : String) : Endpoint := ⟨method, true⟩

/-- A method that is not answered. -/
def notification (method : String) : Endpoint := ⟨method, false⟩

/-- The areas in order, each with its endpoints in order. -/
def groups : List EndpointGroup :=
  [
    { name := "General"
      endpoints := [request "initialize", notification "initialized", request "shutdown",
        notification "exit", notification "$/logTrace", notification "$/setTrace"] },
    { name := "Client"
      endpoints := [request "client/registerCapability", request "client/unregisterCapability"] },
    { name := "Diagnostics"
      endpoints := [notification "textDocument/publishDiagnostics"] },
    { name := "Telemetry"
      endpoints := [notification "telemetry/event"] },
    { name := "TextDocument"
      endpoints := [request "textDocument/completion", notification "textDocument/didChange",
        notification "textDocument/didClose", notification "textDocument/didOpen",
        notification "textDocument/didSave", request "textDocument/hover",
        notification "textDocument/willSave", notification "textDocument/willSaveWaitUntil"] },
    { name := "Window"
      endpoints := [notification "window/logMessage", request "window/showDocument",
        notification "window/showMessage", request "window/showMessageRequest"] },
    { name := "Workspace"
      endpoints := [request "workspace/applyEdit", request "workspace/configuration",
        notification "workspace/didChangeConfiguration",
        notification "workspace/didChangeWatchedFiles",
        notification "workspace/didChangeWorkspaceFolders",
        notification "workspace/didCreateFiles", notification "workspace/didDeleteFiles",
        notification "workspace/didRenameFiles", request "workspace/executeCommand",
        request "workspace/symbol", notification "workspace/willCreateFiles",
        notification "workspace/willRenameFiles", notification "workspace/willDeleteFiles",
        request "workspace/workspaceFolders"] }]

/-- Every endpoint, in the order of the areas. -/
def endpoints : List Endpoint :=
  groups.flatMap EndpointGroup.endpoints

/-- The endpoint with a method. -/
def lookup? (method : String) : Option Endpoint :=
  endpoints.find? (·.method == method)

/-- The area of a method. -/
def groupOf? (method : String) : Option EndpointGroup :=
  groups.find? fun group => group.endpoints.any (·.method == method)

end Catalog

/-- The members in their written order. -/
def Endpoint.toJson (endpoint : Endpoint) : Json :=
  .obj [("method", .str endpoint.method),
    ("kind", .str (if endpoint.isRequest then "request" else "notification"))]

/-- The members in their written order. -/
def EndpointGroup.toJson (group : EndpointGroup) : Json :=
  .obj [("name", .str group.name), ("endpoints", .arr (group.endpoints.map Endpoint.toJson))]

end WordServer
