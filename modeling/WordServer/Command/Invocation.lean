import WordServer.Command.Line
import WordServer.Service.Basic

/-!
# The program's command line

Which options the program has, and what a command line asks it to do. The settings file and
verbosity can be given before or behind the subcommand, the settings file also by an environment
variable; what stands closer to the subcommand's own options wins, and the variable comes last.
-/

namespace WordServer.Command

/-- The line that tells the version of a program, where it is asked for. -/
def UsageFault.versionText? : UsageFault → Option String
  | .version program => some (program ++ " " ++ Service.serviceVersion ++ "\n")
  | _ => none

/-- What a server is started with. -/
structure ServeOptions where
  address : String := "stdio:"
  host : Option String := none
  port : Option UInt16 := none
  path : Option String := none
  tlsCert : Option String := none
  tlsKey : Option String := none
  maxConnections : Option Nat := none
  modelType : Option String := none
  vocab : Option String := none
  numResults : Option Nat := none
  deriving DecidableEq, Repr

/-- Which server is checked, and how. -/
structure ConnectOptions where
  address : String
  pretty : Bool := false
  timeoutSecs : Nat := 10
  deriving DecidableEq, Repr

/-- Which endpoints are listed, and how. -/
structure CatalogOptions where
  group : Option String := none
  pretty : Bool := false
  deriving DecidableEq, Repr

/-- What the program is asked to do. -/
inductive Task where
  | serve (options : ServeOptions)
  | connect (options : ConnectOptions)
  | catalog (options : CatalogOptions)
  deriving DecidableEq, Repr

/-- A whole command line. -/
structure Invocation where
  config : Option String
  verbose : Bool
  task : Task
  deriving DecidableEq, Repr

/-- An option with a value. -/
def valued (name : String) (shape : ValueShape) : OptionRule :=
  { name, role := .value shape }

/-- An option without a value. -/
def flag (name : String) : OptionRule :=
  { name, role := .flag }

/-- The options that every level has. -/
def sharedOptions : List OptionRule :=
  [{ name := "config", short := some 'c', role := .value .path },
    { name := "verbose", short := some 'v', role := .flag },
    { name := "help", short := some 'h', role := .help },
    { name := "version", short := some 'V', role := .version }]

/-- The level before a subcommand. -/
def rootLevel : Level :=
  { program := Service.serviceName
    options := sharedOptions
    places := 0
    subcommands := ["serve", "connect", "catalog", "help"] }

/-- The level behind a subcommand. -/
def subLevel (name : String) (places : Nat) (options : List OptionRule) : Level :=
  { program := Service.serviceName ++ "-" ++ name
    options := options ++ sharedOptions
    places
    subcommands := [] }

/-- The options of a server. -/
def serveLevel : Level :=
  subLevel "serve" 1
    [valued "host" .text, valued "port" .port, valued "path" .path, valued "tls-cert" .path,
      valued "tls-key" .path, valued "max-connections" .count, valued "model-type" .text,
      valued "vocab" .path, valued "num-results" .count]

/-- The options of a check. -/
def connectLevel : Level :=
  subLevel "connect" 1 [flag "pretty", valued "timeout-secs" .count]

/-- The options of a listing. -/
def catalogLevel : Level :=
  subLevel "catalog" 0 [valued "group" .text, flag "pretty"]

/-- Asks for help with a subcommand, none of which has further ones. -/
def helpFault : List String → UsageFault
  | [] => .help
  | [name] => if name ∈ rootLevel.subcommands then .help else .invalidSubcommand
  | _ => .invalidSubcommand

/-- The end of a level: its last option is checked, and so is the variable if it counts there. -/
def finishLevel (environment : Option String) (gathered : Gathered) :
    Except UsageFault Gathered := do
  let gathered ← gathered.resolve
  match environment with
  | some path => if !gathered.hasValue "config" then ValueShape.path.check path
  | none => pure ()
  return gathered

/-- The words behind a subcommand. -/
def readSub (level : Level) (environment : Option String) (words : List String) :
    Except UsageFault Gathered := do
  let (gathered, _) ← readLevel level {} words
  finishLevel environment gathered

/-- The options of a server. A path excludes host and port, and certificate and key go together. -/
def serveOptions (gathered : Gathered) : Except UsageFault ServeOptions :=
  if gathered.hasValue "path" && (gathered.hasValue "host" || gathered.hasValue "port") then
    .error .conflict
  else if gathered.hasValue "tls-cert" != gathered.hasValue "tls-key" then
    .error .missingArgument
  else
    let standard : ServeOptions := {}
    .ok
      { address := gathered.words.head?.getD standard.address
        host := gathered.value? "host"
        port := (gathered.value? "port").bind portOf?
        path := gathered.value? "path"
        tlsCert := gathered.value? "tls-cert"
        tlsKey := gathered.value? "tls-key"
        maxConnections := (gathered.value? "max-connections").bind countOf?
        modelType := gathered.value? "model-type"
        vocab := gathered.value? "vocab"
        numResults := (gathered.value? "num-results").bind countOf? }

/-- The options of a check, which needs an address. -/
def connectOptions (gathered : Gathered) : Except UsageFault ConnectOptions :=
  match gathered.words with
  | [] => .error .missingArgument
  | address :: _ =>
    let standard : ConnectOptions := { address }
    .ok
      { address
        pretty := gathered.hasFlag "pretty"
        timeoutSecs :=
          ((gathered.value? "timeout-secs").bind countOf?).getD standard.timeoutSecs }

/-- The options of a listing. -/
def catalogOptions (gathered : Gathered) : CatalogOptions :=
  { group := gathered.value? "group", pretty := gathered.hasFlag "pretty" }

/-- What a subcommand asks for, and what was said behind it. -/
def readTask (environment : Option String) (name : String) (words : List String) :
    Except UsageFault (Task × Gathered) := do
  if name = "serve" then
    let gathered ← readSub serveLevel environment words
    return (.serve (← serveOptions gathered), gathered)
  else if name = "connect" then
    let gathered ← readSub connectLevel environment words
    return (.connect (← connectOptions gathered), gathered)
  else if name = "catalog" then
    let gathered ← readSub catalogLevel environment words
    return (.catalog (catalogOptions gathered), gathered)
  else throw (helpFault words)

/-- What a command line asks for; `environment` is the environment variable that names the settings
file. What stands behind a subcommand is read before the end of what stands in front of it. -/
def readInvocation (environment : Option String) (words : List String) :
    Except UsageFault Invocation := do
  let (outer, sub) ← readLevel rootLevel {} words
  match sub with
  | none =>
    let outer ← finishLevel environment outer
    throw (if outer.isBare && environment.isNone then .nothingGiven else .missingSubcommand)
  | some (name, words) =>
    let (task, inner) ← readTask environment name words
    let outer ← finishLevel environment outer
    return {
      config := inner.value? "config" <|> outer.value? "config" <|> environment
      verbose := inner.hasFlag "verbose" || outer.hasFlag "verbose"
      task }

end WordServer.Command
