import WordServer.Settings.Reader
import WordServer.Suggester
import WordServer.Toml.Reader

/-!
# Loading settings

Settings come from a file that is named, which has to exist, or from the file at the usual place,
which need not. A file is malformed before any of its values is wrong, and no value is wrong before
every value has its type.
-/

namespace WordServer

/-- A path below another. -/
def joinPath (left right : String) : String :=
  if left.isEmpty || left.endsWith "/" then left ++ right else left ++ "/" ++ right

namespace Settings

/-- The usual place of the settings file: below the directory for configuration, or that of the
user's home directory. -/
def usualPath (configHome home : Option String) : String :=
  let base := configHome.getD ((home.map (joinPath · ".config")).getD ".")
  joinPath (joinPath base "lsp-lm") "config.toml"

/-- The settings in a file. -/
def loadFile (tree : FileTree) (path : String) : Except SettingsFault Settings := do
  let text ← (tree.readText path).mapError .system
  match (Toml.read? text).bind ofToml? with
  | none => throw (.malformed path)
  | some settings =>
    if settings.server.maxConnections = 0 then
      throw (.invalidValue "server.max_connections" "must be at least 1")
    return settings

/-- The settings of a named file, or else those at the usual place. -/
def load (tree : FileTree) (named : Option String) (usual : String) :
    Except SettingsFault Settings :=
  match named with
  | some path => if tree.contains path then loadFile tree path else .error (.notFound path)
  | none => if tree.contains usual then loadFile tree usual else .ok {}

end Settings

namespace CompletionSettings

/-- The words in a vocabulary file. -/
def vocabulary (tree : FileTree) (path : String) : Except SettingsFault (List String) :=
  match tree.readText path with
  | .ok text => .ok (Suggester.wordsOf text)
  | .error cause =>
    .error (.invalidValue "completion.vocab_path" (path ++ ": " ++ cause.message))

/-- The source of completions that is set. A vocabulary without a file is silent. -/
def suggester (settings : CompletionSettings) (tree : FileTree) :
    Except SettingsFault Suggester :=
  if settings.modelType = "vocab" then
    match settings.vocabPath with
    | some path => (vocabulary tree path).map fun words => .vocabulary words settings.numResults
    | none => .ok .silent
  else if settings.modelType = "dummy" then .ok .silent
  else
    .error (.invalidValue "completion.model_type"
      ("Unknown language model type: " ++ settings.modelType))

end CompletionSettings

end WordServer
