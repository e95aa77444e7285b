import WordServer.Json.Writer
import WordServer.Message.ErrorCode
import WordServer.Message.RequestId
import WordServer.Text.Utf8

/-!
# Messages

The four kinds of message that travel in frames: requests, notifications, responses and error
replies. Their members are written in a fixed order, and a member that is absent is not written; a
null that is there is.
-/

namespace WordServer

/-- The protocol version that messages carry. -/
def protocolVersion : String := "2.0"

/-- A call that is answered. -/
structure Request where
  version : String := protocolVersion
  id : RequestId
  method : String
  params : Option Json
  deriving DecidableEq, Repr

/-- A call that is not answered. -/
structure Notification where
  version : String := protocolVersion
  method : String
  params : Option Json
  deriving DecidableEq, Repr

/-- The answer to a request that succeeded. -/
structure Response where
  version : String := protocolVersion
  id : RequestId
  result : Json
  deriving DecidableEq, Repr

/-- What an error reply says. -/
structure ErrorObject where
  code : ErrorCode
  message : String
  data : Option Json := none
  deriving DecidableEq, Repr

/-- The answer to a request that failed; it has no identifier when the request's is not known. -/
structure ErrorReply where
  version : String := protocolVersion
  id : Option RequestId
  error : ErrorObject
  deriving DecidableEq, Repr

/-- Any message. -/
inductive Message where
  | request (request : Request)
  | notification (notification : Notification)
  | response (response : Response)
  | error (reply : ErrorReply)
  deriving DecidableEq, Repr

/-- A member that is left out when absent. -/
def presentMember (name : String) (value : Option Json) : List (String × Json) :=
  match value with
  | some value => [(name, value)]
  | none => []

namespace ErrorObject

/-- The members in their written order. -/
def toJson (error : ErrorObject) : Json :=
  .obj (("code", error.code.toJson) :: ("message", .str error.message) ::
    presentMember "data" error.data)

/-- The error in words. -/
def display (error : ErrorObject) : String :=
  "[" ++ String.ofList (Text.signedDecimal error.code.code) ++ "] " ++ error.message

/-- Reads an error object. -/
def read? : Json → Option ErrorObject :=
  Json.record? do
    let code ← Json.Fields.required "code" ErrorCode.ofJson?
    let message ← Json.Fields.required "message" Json.string?
    let data ← Json.Fields.optional "data" some
    return { code, message, data }

/-- No handler has the method. -/
def methodNotFound : ErrorObject :=
  { code := .methodNotFound, message := "method not found" }

/-- A handler failed for a reason that is given in words. -/
def internal (reason : String) : ErrorObject :=
  { code := .internalError, message := "internal error", data := some (.str reason) }

end ErrorObject

/-- The members in their written order. -/
def Request.toJson (request : Request) : Json :=
  .obj (("jsonrpc", .str request.version) :: ("id", request.id.toJson) ::
    ("method", .str request.method) :: presentMember "params" request.params)

/-- The members in their written order. -/
def Notification.toJson (notification : Notification) : Json :=
  .obj (("jsonrpc", .str notification.version) :: ("method", .str notification.method) ::
    presentMember "params" notification.params)

/-- The members in their written order. -/
def Response.toJson (response : Response) : Json :=
  .obj [("jsonrpc", .str response.version), ("id", response.id.toJson), ("result", response.result)]

/-- The members in their written order; an unknown identifier is null. -/
def ErrorReply.toJson (reply : ErrorReply) : Json :=
  .obj [("jsonrpc", .str reply.version), ("id", (reply.id.map RequestId.toJson).getD .null),
    ("error", reply.error.toJson)]

/-- Reads a request with every member in place. -/
def Request.read? : Json → Option Request :=
  Json.record? do
    let version ← Json.Fields.required "jsonrpc" Json.string?
    let id ← Json.Fields.required "id" RequestId.read?
    let method ← Json.Fields.required "method" Json.string?
    let params ← Json.Fields.optional "params" some
    return { version, id, method, params }

/-- Reads a notification with every member in place. -/
def Notification.read? : Json → Option Notification :=
  Json.record? do
    let version ← Json.Fields.required "jsonrpc" Json.string?
    let method ← Json.Fields.required "method" Json.string?
    let params ← Json.Fields.optional "params" some
    return { version, method, params }

/-- Reads a response with every member in place. -/
def Response.read? : Json → Option Response :=
  Json.record? do
    let version ← Json.Fields.required "jsonrpc" Json.string?
    let id ← Json.Fields.required "id" RequestId.read?
    let result ← Json.Fields.required "result" some
    return { version, id, result }

/-- Reads an error reply with every member in place. -/
def ErrorReply.read? : Json → Option ErrorReply :=
  Json.record? do
    let version ← Json.Fields.required "jsonrpc" Json.string?
    let id ← Json.Fields.optional "id" RequestId.read?
    let error ← Json.Fields.required "error" ErrorObject.read?
    return { version, id, error }

namespace Message

/-- The message as a value, with its members in their written order. -/
def toJson : Message → Json
  | .request r => r.toJson
  | .notification n => n.toJson
  | .response r => r.toJson
  | .error e => e.toJson

/-- The method that is called. -/
def method? : Message → Option String
  | .request r => some r.method
  | .notification n => some n.method
  | .response _ | .error _ => none

/-- The identifier that is carried. -/
def id? : Message → Option RequestId
  | .request r => some r.id
  | .response r => some r.id
  | .error e => e.id
  | .notification _ => none

/-- The text of a message in a layout. -/
def write (layout : Json.Layout) (message : Message) : List Char :=
  message.toJson.write layout

/-- The payload of a message. -/
def encode (message : Message) : List UInt8 :=
  Text.Utf8.encode (message.write .compact)

end Message

end WordServer
