import WordServer.Credentials
import WordServer.Wire.Frame

/-!
# Settings

What can be set in a file, and what holds where nothing is set.
-/

namespace WordServer

/-- How many sessions run at once, and how long a payload may be. -/
structure ServerSettings where
  maxConnections : Nat := 4
  maxContentLength : Nat := Wire.defaultContentLimit
  deriving DecidableEq, Repr

/-- Where completions come from, and how many are given. -/
structure CompletionSettings where
  modelType : String := "vocab"
  vocabPath : Option String := none
  numResults : Nat := 10
  deriving DecidableEq, Repr

/-- The files of the server's certificate and private key. -/
structure TlsSettings where
  certPath : Option String := none
  keyPath : Option String := none
  deriving DecidableEq, Repr

/-- All settings. -/
structure Settings where
  server : ServerSettings := {}
  completion : CompletionSettings := {}
  tls : TlsSettings := {}
  deriving DecidableEq, Repr

/-- Why settings cannot be used. -/
inductive SettingsFault where
  /-- The file is malformed, or a value has the wrong type. -/
  | malformed (path : String)
  | notFound (path : String)
  | invalidValue (key message : String)
  | credentials (cause : Credentials.Fault)
  | system (cause : SystemFault)
  deriving DecidableEq, Repr

/-- The cause in words. -/
def SettingsFault.message : SettingsFault → String
  | .malformed path => "Config parse error: " ++ path ++ ": malformed file"
  | .notFound path => "Config not found: " ++ path
  | .invalidValue key message => "Invalid value for '" ++ key ++ "': " ++ message
  | .credentials cause => "TLS setup failed: " ++ cause.message
  | .system cause => cause.message

end WordServer
