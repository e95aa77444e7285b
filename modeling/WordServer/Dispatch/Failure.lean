import WordServer.Message.Basic

/-!
# Failures of handlers

A handler that fails says why; the router turns the cause into what the reply says.
-/

namespace WordServer

/-- Why a handler failed. -/
inductive Failure where
  /-- An error to be sent as it is. -/
  | rpc (error : ErrorObject)
  | notImplemented
  /-- The params do not have the shape that the handler needs. -/
  | invalidParams (reason : String)
  /-- A reason and what lies behind it, the outermost first. -/
  | internal (reason : String) (causes : List String)
  deriving DecidableEq, Repr

namespace Failure

/-- An error with a code and a message only. -/
def plain (code : ErrorCode) (message : String) : Failure :=
  .rpc { code, message }

/-- The params have a value that is not allowed. -/
def badParams (message : String) : Failure :=
  plain .invalidParams message

/-- The request may not be made now. -/
def badRequest (message : String) : Failure :=
  plain .invalidRequest message

/-- The server has not been told to begin. -/
def notInitialized : Failure :=
  plain .serverNotInitialized "server not initialized"

/-- The cause in words; of an internal failure the outermost reason only. -/
def message : Failure → String
  | .rpc error => error.message
  | .notImplemented => "Capability is declared but not implemented"
  | .invalidParams reason => "Invalid params: " ++ reason
  | .internal reason _ => reason

/-- The code of the reply. -/
def code : Failure → ErrorCode
  | .rpc error => error.code
  | .notImplemented => .methodNotFound
  | .invalidParams _ => .invalidParams
  | .internal _ _ => .internalError

/-- What the reply says; an internal failure is told with all that lies behind it. -/
def errorObject : Failure → ErrorObject
  | .rpc error => error
  | .notImplemented => .methodNotFound
  | .invalidParams reason =>
    { code := .invalidParams, message := "invalid params", data := some (.str reason) }
  | .internal reason causes => .internal (String.intercalate ": " (reason :: causes))

/-- The reply has the code of the failure. -/
theorem code_errorObject (failure : Failure) : failure.errorObject.code = failure.code := by
  cases failure <;> rfl

end Failure

end WordServer
