import WordServer.Document
import WordServer.Json.Record

/-!
# Params of the service

What a client says in each message, and how it is read. Members that the service does not use are
not read.
-/

namespace WordServer.Service

open Json.Fields

/-- The client's name and version. -/
structure ClientInfo where
  name : String
  version : Option String
  deriving DecidableEq, Repr

/-- Reads a client's name and version. -/
def ClientInfo.read? : Json → Option ClientInfo :=
  Json.record? do
    let name ← required "name" Json.string?
    let version ← spare "version" Json.string?
    return { name, version }

/-- A folder that the client works in. -/
structure WorkspaceFolder where
  uri : String
  name : String
  deriving DecidableEq, Repr

/-- Reads a folder. -/
def WorkspaceFolder.read? : Json → Option WorkspaceFolder :=
  Json.record? do
    let uri ← required "uri" Json.string?
    let name ← required "name" Json.string?
    return { uri, name }

/-- What a client says when it begins. -/
structure StartParams where
  processId : Option Json
  clientInfo : Option ClientInfo
  locale : Option String
  rootPath : Option String
  rootUri : Option String
  workspaceFolders : Option (List WorkspaceFolder)
  startOptions : Option Json
  trace : Option String
  capabilities : Option Json
  deriving DecidableEq, Repr

/-- Reads what a client says when it begins. -/
def StartParams.read? : Json → Option StartParams :=
  Json.record? do
    let processId ← spare "processId" some
    let clientInfo ← spare "clientInfo" ClientInfo.read?
    let locale ← spare "locale" Json.string?
    let rootPath ← spare "rootPath" Json.string?
    let rootUri ← spare "rootUri" Json.string?
    let workspaceFolders ← spare "workspaceFolders" (Json.list? WorkspaceFolder.read?)
    let startOptions ← spare "initializationOptions" some
    let trace ← spare "trace" Json.string?
    let capabilities ← spare "capabilities" some
    return { processId, clientInfo, locale, rootPath, rootUri, workspaceFolders, startOptions,
             trace, capabilities }

/-- Reads a level of tracing. -/
def readTrace? : Json → Option String :=
  Json.record? (required "value" Json.string?)

/-- A document that is opened. -/
structure OpenedDocument where
  uri : String
  languageId : Option String
  version : Int
  text : String
  deriving DecidableEq, Repr

/-- Reads a document that is opened; its version is zero unless given. -/
def OpenedDocument.read? : Json → Option OpenedDocument :=
  Json.record? do
    let uri ← required "uri" Json.string?
    let languageId ← spare "languageId" Json.string?
    let version ← defaulted "version" 0 Json.int64?
    let text ← required "text" Json.string?
    return { uri, languageId, version, text }

/-- Reads the message that opens a document. -/
def readOpened? : Json → Option OpenedDocument :=
  Json.record? (required "textDocument" OpenedDocument.read?)

/-- Reads the URI of a document. -/
def readUri? : Json → Option String :=
  Json.record? (required "uri" Json.string?)

/-- Reads the message that closes a document. -/
def readClosed? : Json → Option String :=
  Json.record? (required "textDocument" readUri?)

/-- A change of a document: with a range it concerns a part, without one the whole text. -/
structure Change where
  range : Option Json
  text : String
  deriving DecidableEq, Repr

/-- Reads a change. -/
def Change.read? : Json → Option Change :=
  Json.record? do
    let range ← spare "range" some
    let text ← required "text" Json.string?
    return { range, text }

/-- The changes of a document and its version after them. -/
structure ChangedDocument where
  uri : String
  version : Option Int
  changes : List Change
  deriving DecidableEq, Repr

/-- Reads a document's URI and version. -/
def readVersioned? : Json → Option (String × Option Int) :=
  Json.record? do
    let uri ← required "uri" Json.string?
    let version ← spare "version" Json.int64?
    return (uri, version)

/-- Reads the message that changes a document. -/
def ChangedDocument.read? : Json → Option ChangedDocument :=
  Json.record? do
    let (uri, version) ← required "textDocument" readVersioned?
    let changes ← required "contentChanges" (Json.list? Change.read?)
    return { uri, version, changes }

/-- A document that was saved, with its text if the client sends it. -/
structure SavedDocument where
  uri : String
  text : Option String
  deriving DecidableEq, Repr

/-- Reads the message that tells of a saved document. -/
def SavedDocument.read? : Json → Option SavedDocument :=
  Json.record? do
    let uri ← required "textDocument" readUri?
    let text ← spare "text" Json.string?
    return { uri, text }

/-- Reads a position. -/
def readPosition? : Json → Option Position :=
  Json.record? do
    let line ← required "line" Json.nat64?
    let character ← required "character" Json.nat64?
    return { line, character }

/-- Where completions are wanted. -/
structure Cursor where
  uri : String
  position : Position
  deriving DecidableEq, Repr

/-- Reads where completions are wanted. -/
def Cursor.read? : Json → Option Cursor :=
  Json.record? do
    let uri ← required "textDocument" readUri?
    let position ← required "position" readPosition?
    return { uri, position }

/-- Takes any params. -/
def readAnything? : Json → Option Unit :=
  fun _ => some ()

end WordServer.Service
