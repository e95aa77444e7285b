import WordServer.Command.Listing
import WordServer.Command.Serve
import WordServer.Session.Arrival

/-!
# The program

Reads the command line, the settings and the files that they name, and carries the command out on
the standard streams. Everything that is decided is decided by the modules that this one calls.
-/

namespace WordServer.Program

/-- What stands at a path. -/
def nodeAt? (path : String) : IO (Option FileNode) := do
  try
    return some (.file (← IO.FS.readBinFile path).toList)
  catch
    | .noFileOrDirectory .. => return none
    | _ => return some .directory

/-- The files at some paths. -/
def filesAt (paths : List String) : IO FileTree := do
  let mut tree := FileTree.empty
  for path in paths do
    if let some node ← nodeAt? path then tree := tree.add path node
  return tree

/-- Writes bytes to the standard output. -/
def emit (content : List UInt8) : IO Unit := do
  let out ← IO.getStdout
  out.write ⟨content.toArray⟩
  out.flush

/-- Tells why the program failed. -/
def fail (message : String) : IO UInt32 := do
  IO.eprintln ("Error: " ++ message)
  return 2

/-- Serves the standard streams as input arrives. -/
partial def serveStreams (session : Session Service.State) (complete : Bool) : IO UInt32 := do
  match session.advance complete with
  | .ended result session =>
    emit session.written
    match result with
    | .ok () => return 0
    | .error fault => fail (Command.Serve.Plan.sessionFault fault).message
  | .goesOn session =>
    emit session.written
    let chunk ← (← IO.getStdin).read 65536
    let input := session.input ++ Wire.eventsOf chunk.toList
    serveStreams { session with input, sent := [], written := [] } chunk.isEmpty

/-- Starts a server. -/
def serve (options : Command.ServeOptions) (settings : Settings) : IO UInt32 := do
  let paths := [options.vocab, settings.completion.vocabPath, options.tlsCert, options.tlsKey,
    settings.tls.certPath, settings.tls.keyPath].filterMap id
  match Command.Serve.plan options settings (← filesAt paths) with
  | .error fault => fail fault.message
  | .ok plan =>
    if plan.address.kind = .stdio then serveStreams (plan.session "stdio" []) false
    else fail ("sockets are not available here: " ++ plan.address.display)

/-- Carries a command out. -/
def run (invocation : Command.Invocation) (settings : Settings) : IO UInt32 :=
  match invocation.task with
  | .serve options => serve options settings
  | .connect options => fail ("sockets are not available here: " ++ options.address)
  | .catalog options =>
    match Command.Listing.run options with
    | .error fault => fail fault.message
    | .ok text => do
      emit (Text.Utf8.encode text)
      return 0

end WordServer.Program

open WordServer in
/-- Carries out the command that the command line asks for. -/
def main (words : List String) : IO UInt32 := do
  match Command.readInvocation (← IO.getEnv "LSP_LM_CONFIG") words with
  | .error fault =>
    match fault.versionText? with
    | some text => IO.print text
    | none => IO.eprintln "Usage: lsp-lm [-c CONFIG] [-v] serve|connect|catalog [OPTIONS]"
    return UInt32.ofNat fault.exitCode
  | .ok invocation =>
    let usual := Settings.usualPath (← IO.getEnv "XDG_CONFIG_HOME") (← IO.getEnv "HOME")
    let files ← Program.filesAt [invocation.config.getD usual]
    match Settings.load files invocation.config usual with
    | .error fault => Program.fail ("Failed to initialize: " ++ fault.message)
    | .ok settings => Program.run invocation settings
