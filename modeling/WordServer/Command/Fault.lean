/-!
# Failed commands

A command that fails tells why, and what lies behind it, the outermost first.
-/

namespace WordServer.Command

/-- Why a command failed. -/
inductive Fault where
  | failed (reason : String) (causes : List String)
  /-- A reply that was read is no JSON. -/
  | notJson
  deriving DecidableEq, Repr

/-- A reason with nothing behind it. -/
def Fault.plain (reason : String) : Fault :=
  .failed reason []

/-- The reason and all that lies behind it. -/
def Fault.message : Fault → String
  | .failed reason causes => String.intercalate ": " (reason :: causes)
  | .notJson => "the reply is no JSON"

end WordServer.Command
