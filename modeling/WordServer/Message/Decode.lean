import WordServer.Json.Reader
import WordServer.Json.Wording
import WordServer.Message.Basic
import WordServer.Wire.Charset

/-!
# Reading messages

A payload is decoded in its charset, read as JSON and classified by its members: a method without an
identifier is a notification, a method with one a request, and an identifier with a result or an
error but no method a reply. Other members, the version included, play no part. A payload that is
none of these is malformed, for a cause that decides the code of the answer.
-/

namespace WordServer

/-- Why a payload is no message. -/
inductive Malformed where
  | unsupportedCharset (name : String)
  | undecodable (charset reason : String)
  | notJson
  | notAnObject
  | missingMethod (id : Option Json)
  | invalidMethod (id : Option Json)
  | invalidId (value : Json)
  deriving DecidableEq, Repr

namespace Malformed

/-- The cause in words; `reason` is what the JSON reader says of a text that is not JSON. -/
def message (cause : Malformed) (reason : String := "") : String :=
  match cause with
  | .unsupportedCharset name => "Unsupported charset: " ++ name
  | .undecodable charset reason => "Content is not valid " ++ charset ++ ": " ++ reason
  | .notJson => "Invalid JSON: " ++ reason
  | .notAnObject => "Message is not a JSON object"
  | .missingMethod _ => "No method to call"
  | .invalidMethod _ => "Field method is not a string"
  | .invalidId value => "Wrong type of request identifier: " ++ value.toText

/-- The code that answers a malformed payload: text that cannot be read is a parse error, text that
can is an invalid request. -/
def code : Malformed → ErrorCode
  | .unsupportedCharset _ | .undecodable _ _ | .notJson => .parseError
  | .notAnObject | .missingMethod _ | .invalidMethod _ | .invalidId _ => .invalidRequest

/-- The error in the answer to a malformed payload. -/
def errorObject (cause : Malformed) (reason : String := "") : ErrorObject :=
  { code := cause.code
    message := if cause.code = .parseError then "parse error" else "invalid request"
    data := some (.str (cause.message reason)) }

/-- The identifier that a malformed payload still shows. -/
def id? : Malformed → Option RequestId
  | .missingMethod id | .invalidMethod id => id.bind RequestId.ofJson?
  | _ => none

/-- What the answer to a malformed payload says. -/
def errorReply (cause : Malformed) (reason : String := "") : ErrorReply :=
  { id := cause.id?, error := cause.errorObject reason }

/-- The answer to a malformed payload. -/
def reply (cause : Malformed) (reason : String := "") : Message :=
  .error (cause.errorReply reason)

end Malformed

/-- The error of a reply. One that has no code of the closed set keeps its message and data. -/
def replyError (value : Json) : ErrorObject :=
  match ErrorObject.read? value with
  | some error => error
  | none =>
    { code := .unknownErrorCode
      message := ((value.member? "message").bind Json.string?).getD ""
      data := value.member? "data" }

/-- A message without a method, from its identifier and members. -/
def classifyReply (id : Option Json) (members : Entries Json) : Except Malformed Message :=
  let error := Entries.lookup "error" members
  let result := Entries.lookup "result" members
  if error.isNone && result.isNone then .error (.missingMethod id)
  else
    match id with
    | none => .error (.missingMethod none)
    | some raw =>
      match RequestId.ofJson? raw with
      | none => .error (.invalidId raw)
      | some id =>
        match error with
        | some error => .ok (.error { id := some id, error := replyError error })
        | none => .ok (.response { id, result := result.getD .null })

/-- The message that a value is. -/
def classify : Json → Except Malformed Message
  | .obj members =>
    let id := (Entries.lookup "id" members).filter (!·.isNull)
    let params := Entries.lookup "params" members
    match Entries.lookup "method" members with
    | none | some .null => classifyReply id members
    | some (.str method) =>
      if method.isEmpty then .error (.missingMethod id)
      else
        match id with
        | none => .ok (.notification { method, params })
        | some raw =>
          match RequestId.ofJson? raw with
          | some id => .ok (.request { id, method, params })
          | none => .error (.invalidId raw)
    | some _ => .error (.invalidMethod id)
  | _ => .error .notAnObject

/-- The text of a payload in a charset. -/
def payloadText (charset : String) (content : List UInt8) : Except Malformed (List Char) :=
  match Wire.Charset.ofName? charset with
  | none => .error (.unsupportedCharset charset)
  | some known => (known.decode content).mapError (.undecodable charset)

/-- What the JSON reader says of the text of a payload, where that is not JSON. -/
def notJsonReason [Json.Wording] (charset : String) (content : List UInt8) : String :=
  match payloadText charset content with
  | .ok text => Json.Wording.notJson text
  | .error _ => ""

/-- The message in a text. -/
def messageOfText (text : List Char) : Except Malformed Message :=
  match Json.read? text with
  | some value => classify value
  | none => .error .notJson

/-- The message of a payload in a charset. -/
def decodeMessage (charset : String) (content : List UInt8) : Except Malformed Message := do
  messageOfText (← payloadText charset content)

end WordServer
