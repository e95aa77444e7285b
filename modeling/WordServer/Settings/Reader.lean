import WordServer.Settings.Basic
import WordServer.Toml.Basic

/-!
# Settings from a table

A group of settings is a table, whose other keys are ignored, or an array with the settings in their
declared order, whose other items are ignored. What is missing takes its default, except that an
array has to name both files of a certificate and its key.
-/

namespace WordServer.Settings

/-- A group of settings as it is given. -/
inductive Group where
  | named (entries : Entries Toml)
  | listed (items : List Toml)

/-- The group that a value is. A date is a group without settings. -/
def Group.ofToml? : Toml → Option Group
  | .table _ entries => some (.named entries)
  | .moment => some (.named [])
  | .array items => some (.listed items)
  | .tables elements => some (.listed (elements.reverse.map (.table .header)))
  | _ => none

/-- The setting with a name, or at a place of the declared order. -/
def Group.setting? (group : Group) (name : String) (place : Nat) : Option Toml :=
  match group with
  | .named entries => Entries.lookup name entries
  | .listed items => items[place]?

/-- Whether settings are given by name. -/
def Group.isNamed : Group → Bool
  | .named _ => true
  | .listed _ => false

/-- A setting that has a default. -/
def Group.get {α : Type} (group : Group) (name : String) (place : Nat) (default : α)
    (read : Toml → Option α) : Option α :=
  match group.setting? name place with
  | some value => read value
  | none => some default

/-- A setting that may be missing from a table only. -/
def Group.getNamed {α : Type} (group : Group) (name : String) (place : Nat)
    (read : Toml → Option α) : Option (Option α) :=
  match group.setting? name place with
  | some value => (read value).map some
  | none => if group.isNamed then some none else none

/-- Reads a text. -/
def text? : Toml → Option String
  | .string s => some s
  | _ => none

/-- Reads a count. -/
def count? : Toml → Option Nat
  | .integer (.ofNat n) => some n
  | _ => none

/-- Reads how the server runs. -/
def readServer? (value : Toml) : Option ServerSettings := do
  let group ← Group.ofToml? value
  let standard : ServerSettings := {}
  return {
    maxConnections := ← group.get "max_connections" 0 standard.maxConnections count?
    maxContentLength := ← group.get "max_content_length" 1 standard.maxContentLength count? }

/-- Reads where completions come from. -/
def readCompletion? (value : Toml) : Option CompletionSettings := do
  let group ← Group.ofToml? value
  let standard : CompletionSettings := {}
  return {
    modelType := ← group.get "model_type" 0 standard.modelType text?
    vocabPath := ← group.get "vocab_path" 1 standard.vocabPath fun value => (text? value).map some
    numResults := ← group.get "num_results" 2 standard.numResults count? }

/-- Reads the files of a certificate and its key. -/
def readTls? (value : Toml) : Option TlsSettings := do
  let group ← Group.ofToml? value
  return {
    certPath := ← group.getNamed "cert_path" 0 text?
    keyPath := ← group.getNamed "key_path" 1 text? }

/-- Reads all settings. -/
def ofToml? (value : Toml) : Option Settings := do
  let group ← Group.ofToml? value
  return {
    server := ← group.get "server" 0 {} readServer?
    completion := ← group.get "completion" 1 {} readCompletion?
    tls := ← group.get "tls" 2 {} readTls? }

end WordServer.Settings
