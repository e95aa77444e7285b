import WordServer.Address.Parser
import WordServer.Command.Fault
import WordServer.Command.Invocation
import WordServer.Listener
import WordServer.Service.Basic
import WordServer.Session
import WordServer.Settings.Load

/-!
# Starting a server

Where the server listens comes from its address, of which options replace the parts that they name;
how it runs comes from the settings, of which options replace the values that they name. The address
is settled first, then the options are checked, then the vocabulary and the certificate are loaded.
-/

namespace WordServer.Command.Serve

/-- The host where only a port is given. -/
def defaultHost : String := "127.0.0.1"

/-- Reads an address from the command line. -/
def parseAddress (text : String) : Except Fault Address :=
  (Address.parse text.toList).mapError fun fault =>
    .failed ("Invalid address '" ++ text ++ "'") [fault.message]

/-- The address whose parts replace what the options leave open, if it has a host and a port. -/
def baseAddress? (text : String) : Option Address :=
  (Address.parse text.toList).toOption.filter (·.kind.isTcp)

/-- The address of a host and a port, of which at least one is an option. -/
def overriddenAddress (options : ServeOptions) : Except Fault Address := do
  let base := baseAddress? options.address
  let kind := (base.map Address.kind).getD .tcp
  let host := (options.host <|> base.bind Address.host).getD defaultHost
  match options.port <|> base.bind Address.port with
  | none => throw (.plain "--host needs a port (--port or ADDRESS)")
  | some port =>
    let address := Address.tcp kind host port
    address.validate.mapError fun fault => Fault.plain fault.message
    return address

/-- Where the server listens. -/
def resolveAddress (options : ServeOptions) : Except Fault Address :=
  match options.path with
  | some path => .ok (.unix path)
  | none =>
    if options.host.isNone && options.port.isNone then parseAddress options.address
    else overriddenAddress options

/-- The settings with the options in place. -/
def override (settings : Settings) (options : ServeOptions) : Except Fault Settings :=
  if options.maxConnections = some 0 then .error (.plain "--max-connections must be at least 1")
  else
    .ok
      { server :=
          { settings.server with
            maxConnections := options.maxConnections.getD settings.server.maxConnections }
        completion :=
          { modelType := options.modelType.getD settings.completion.modelType
            vocabPath := options.vocab <|> settings.completion.vocabPath
            numResults := options.numResults.getD settings.completion.numResults }
        tls :=
          if options.tlsCert.isSome then ⟨options.tlsCert, options.tlsKey⟩ else settings.tls }

/-- Checks the files of a certificate and its key, which go together. -/
def checkTls (settings : TlsSettings) (tree : FileTree) : Except Fault Unit :=
  match settings.certPath, settings.keyPath with
  | some certificate, some privateKey =>
    (Credentials.load tree certificate privateKey).mapError fun cause =>
      .plain (SettingsFault.credentials cause).message
  | none, none => .ok ()
  | _, _ => .error (.plain "TLS needs both tls.cert_path and tls.key_path")

/-- A server that can be started. -/
structure Plan where
  address : Address
  settings : Settings
  suggester : Suggester

/-- Settles all that a server needs. -/
def plan (options : ServeOptions) (settings : Settings) (tree : FileTree) :
    Except Fault Plan := do
  let address ← resolveAddress options
  let settings ← override settings options
  let suggester ← (settings.completion.suggester tree).mapError fun fault =>
    Fault.plain fault.message
  checkTls settings.tls tree
  return { address, settings, suggester }

namespace Plan

variable [Json.Wording]

/-- The session with one peer. -/
def session (plan : Plan) (peer : String) (input : List UInt8) : Session Service.State :=
  { peer
    limit := plan.settings.server.maxContentLength
    protocol := Service.protocol plan.suggester
    state := {}
    input := Wire.eventsOf input }

/-- The result of a session on the standard streams as the command's. -/
def sessionFault (fault : Wire.Fault) : Fault :=
  .failed (sessionFaultMessage fault) [sessionFaultMessage fault, fault.message]

/-- Serves the standard streams: the result, and what is written. -/
def serveStdio (plan : Plan) (input : List UInt8) : Except Fault Unit × List UInt8 :=
  let (result, session) := (plan.session "stdio" input).run
  (result.mapError sessionFault, session.written)

/-- Why the server cannot listen, as the command's fault. -/
def listenFault (fault : TransportFault) : Fault :=
  match fault with
  | .bind _ reason => .failed fault.message [fault.message, reason]
  | _ => .failed fault.message [fault.message]

/-- Listens on a socket. -/
def listen (plan : Plan) (tree : FileTree) : Except Fault Listener × FileTree :=
  let (result, tree) := Listener.bind plan.address tree
  (result.mapError listenFault, tree)

/-- What a client receives that sends bytes and then no more. -/
def answers (plan : Plan) (content : List UInt8) : List UInt8 :=
  (plan.session "unix#1" content).run.2.written

end Plan

end WordServer.Command.Serve
