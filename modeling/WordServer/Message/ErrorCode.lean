import WordServer.Json.Basic

/-!
# Error codes

The closed set of codes that an error reply may carry.
-/

namespace WordServer

/-- What went wrong with a request. -/
inductive ErrorCode where
  | parseError
  | invalidRequest
  | methodNotFound
  | invalidParams
  | internalError
  | serverNotInitialized
  | unknownErrorCode
  | serverCancelled
  | contentModified
  | requestCancelled
  deriving DecidableEq, Repr

namespace ErrorCode

/-- The number of a code. -/
def code : ErrorCode → Int
  | .parseError => -32700
  | .invalidRequest => -32600
  | .methodNotFound => -32601
  | .invalidParams => -32602
  | .internalError => -32603
  | .serverNotInitialized => -32002
  | .unknownErrorCode => -32001
  | .serverCancelled => -32802
  | .contentModified => -32801
  | .requestCancelled => -32800

/-- Every code. -/
def all : List ErrorCode :=
  [.parseError, .invalidRequest, .methodNotFound, .invalidParams, .internalError,
    .serverNotInitialized, .unknownErrorCode, .serverCancelled, .contentModified,
    .requestCancelled]

/-- The code with a number. -/
def ofCode? (n : Int) : Option ErrorCode :=
  all.find? fun c => c.code == n

/-- The code that a value is. -/
def ofJson? : Json → Option ErrorCode
  | .int n => ofCode? n
  | _ => none

/-- The code as a value. -/
def toJson (c : ErrorCode) : Json :=
  .int c.code

/-- A code is found by its number. -/
theorem ofCode?_code (c : ErrorCode) : ofCode? c.code = some c := by
  cases c <;> decide

end ErrorCode

end WordServer
