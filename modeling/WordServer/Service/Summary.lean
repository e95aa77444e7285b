import WordServer.Json.Writer
import WordServer.Service.Params

/-!
# Summary of a client

What a client says when it begins, for people to read: one line for each thing, the values of open
shape as JSON.
-/

namespace WordServer.Service

/-- The JSON text of a value that may be missing. -/
def jsonOrNull (value : Option Json) : String :=
  (value.getD .null).toText

/-- A number at the right end of two places. -/
def twoPlaces (n : Nat) : String :=
  let digits := Text.decimal n
  String.ofList (List.replicate (2 - digits.length) ' ' ++ digits)

/-- The lines that list folders, numbered from one. -/
def folderLines (folders : List WorkspaceFolder) : List String :=
  folders.zipIdx.map fun (folder, i) =>
    "[" ++ twoPlaces (i + 1) ++ "] " ++ folder.name ++ " -> " ++ folder.uri

/-- The line that names the client. -/
def clientLines : Option ClientInfo → List String
  | none => []
  | some info =>
    ["Client info:            " ++ info.name ++
      (match info.version with
        | some version => "/" ++ version
        | none => "")]

/-- The areas of a client's capabilities, with the names they are shown under. -/
def capabilityAreas : List (String × String) :=
  [("General", "general"), ("Document", "textDocument"), ("Workspace", "workspace"),
    ("Experimental", "experimental")]

/-- The lines that show a client's capabilities. -/
def capabilityLines (capabilities : Option Json) : List String :=
  capabilityAreas.map fun (label, name) =>
    "[" ++ label ++ "] " ++ jsonOrNull (capabilities.bind (·.member? name))

/-- The lines of the summary. -/
def StartParams.lines (params : StartParams) : List String :=
  ["Parent PID:             " ++ jsonOrNull params.processId] ++
  clientLines params.clientInfo ++
  ["Locale:                 " ++ params.locale.getD "",
    "Root URI:               " ++ (params.rootUri <|> params.rootPath).getD "null",
    "Workspace Folders:"] ++
  folderLines (params.workspaceFolders.getD []) ++
  ["Initialization Options: " ++ jsonOrNull params.startOptions,
    "Tracing:                " ++ params.trace.getD "off",
    "Client Capabilities:"] ++
  capabilityLines params.capabilities

/-- The summary, every line ended. -/
def StartParams.summary (params : StartParams) : String :=
  String.join (params.lines.map (· ++ "\n"))

end WordServer.Service
