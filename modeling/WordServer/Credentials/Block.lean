import WordServer.Credentials.Base64
import WordServer.Text.Quoted
import WordServer.Text.Utf8

/-!
# Labelled blocks

Certificates and keys are kept in a text of labelled blocks. A block starts with a line
`-----BEGIN label-----` and ends with a line that begins with `-----END label-----`; between the
dashes at the end of the first line, and behind them, there may be blanks. Between the two stand the
bytes of what the block holds, in base64; of a block with an unknown label they mean nothing, and
so do lines outside of blocks. A first line with another number of dashes, a content that is no
base64, or a block that does not end, spoils the text from there on.
-/

namespace WordServer.Credentials

/-- What a block holds. -/
inductive BlockKind where
  | certificate
  | privateKey
  | rsaPrivateKey
  | ecPrivateKey
  | publicKey
  | revocationList
  | certificateRequest
  | helloConfig
  deriving DecidableEq, Repr

namespace BlockKind

/-- The label of the blocks of a kind. -/
def label : BlockKind → String
  | .certificate => "CERTIFICATE"
  | .privateKey => "PRIVATE KEY"
  | .rsaPrivateKey => "RSA PRIVATE KEY"
  | .ecPrivateKey => "EC PRIVATE KEY"
  | .publicKey => "PUBLIC KEY"
  | .revocationList => "X509 CRL"
  | .certificateRequest => "CERTIFICATE REQUEST"
  | .helloConfig => "ECHCONFIG"

/-- All kinds. -/
def all : List BlockKind :=
  [.certificate, .privateKey, .rsaPrivateKey, .ecPrivateKey, .publicKey, .revocationList,
    .certificateRequest, .helloConfig]

/-- The kind with a label. -/
def ofLabel? (label : List UInt8) : Option BlockKind :=
  all.find? fun kind => Text.Utf8.encode kind.label.toList == label

end BlockKind

/-- A block: its kind and the bytes that it holds. -/
structure Block where
  kind : BlockKind
  content : List UInt8
  deriving DecidableEq, Repr

/-- Why the content of a file is no text of blocks. -/
inductive BlockFault where
  /-- A line begins like the first one of a block and does not end like it. -/
  | illegalStart (line : List UInt8)
  /-- The text ends inside of a block. -/
  | missingEnd (label : List UInt8)
  /-- A block holds something else than base64. -/
  | content (cause : Base64.Fault)
  deriving DecidableEq, Repr

/-- Bytes in a message: the text that they show, in quotation marks. -/
def quotedBytes (bytes : List UInt8) : String :=
  String.ofList (Text.quoted (Text.Utf8.shown bytes))

/-- The cause in words. -/
def BlockFault.message : BlockFault → String
  | .illegalStart line => "illegal section start: " ++ quotedBytes line
  | .missingEnd label => "section end " ++ quotedBytes label ++ " missing"
  | .content cause => cause.message

/-- The byte of a dash. -/
def dash : UInt8 := 0x2D

/-- The bytes that end a line. -/
def endsLine (b : UInt8) : Bool :=
  b == 0x0A || b == 0x0D

/-- The lines of a text, each with the byte that ends it: `done` are those before, last first, and
`line` is what has been read of the next, last byte first. -/
def linesFrom (done : List (List UInt8)) (line : List UInt8) : List UInt8 → List (List UInt8)
  | [] => (if line.isEmpty then done else line.reverse :: done).reverse
  | b :: rest =>
    if endsLine b then linesFrom ((b :: line).reverse :: done) [] rest
    else linesFrom done (b :: line) rest

/-- The bytes that every first line of a block begins with. -/
def opening : List UInt8 := Text.Utf8.encode "-----BEGIN ".toList

/-- The bytes that every last line of a block begins with. -/
def closing : List UInt8 := Text.Utf8.encode "-----END ".toList

/-- What a line means. -/
inductive LineRole where
  | opens (label : List UInt8)
  | misfit
  | other
  deriving DecidableEq, Repr

/-- The number of dashes around a label. -/
def dashes : Nat := 5

/-- What a line means. The label is what stands before the first dash of the run, with its blanks,
that the line ends with. -/
def roleOf (line : List UInt8) : LineRole :=
  if !opening.isPrefixOf line then .other
  else
    let rest := line.drop opening.length
    let inRun (b : UInt8) : Bool := b == dash || b == 0x20 || endsLine b
    let run := (rest.reverse.takeWhile inRun).reverse.dropWhile (· != dash)
    if run.count dash = dashes then .opens (rest.take (rest.length - run.length)) else .misfit

/-- Whether a line closes the block with a label. -/
def closes (label line : List UInt8) : Bool :=
  (closing ++ label ++ List.replicate dashes dash).isPrefixOf line

/-- What has been read of a text of blocks. -/
structure BlockState where
  /-- The blocks that have ended, last first. -/
  done : List Block
  /-- The label of the block that has been opened. -/
  label? : Option (List UInt8)
  /-- The lines of its content, last first. -/
  body : List (List UInt8)
  deriving DecidableEq, Repr

/-- Reads one line. A first line inside of a block gives it another label and leaves what it
holds. -/
def BlockState.step (state : BlockState) (line : List UInt8) : Except BlockFault BlockState :=
  match roleOf line, state.label? with
  | .opens label, _ => .ok { state with label? := some label }
  | .misfit, _ => .error (.illegalStart line)
  | .other, none => .ok state
  | .other, some label =>
    if closes label line then
      match BlockKind.ofLabel? label with
      | none => .ok ⟨state.done, none, []⟩
      | some kind =>
        match Base64.decode state.body.reverse.flatten with
        | .ok content => .ok ⟨⟨kind, content⟩ :: state.done, none, []⟩
        | .error cause => .error (.content cause)
    else .ok { state with body := line :: state.body }

/-- The blocks in lines, and what spoils the text behind them. -/
def blocksFrom (state : BlockState) : List (List UInt8) → List Block × Option BlockFault
  | [] => (state.done.reverse, state.label?.map .missingEnd)
  | line :: rest =>
    match state.step line with
    | .ok state => blocksFrom state rest
    | .error fault => (state.done.reverse, some fault)

/-- The blocks in the content of a file, and what spoils the text behind them. -/
def blocksOf (content : List UInt8) : List Block × Option BlockFault :=
  blocksFrom ⟨[], none, []⟩ (linesFrom [] [] content)

end WordServer.Credentials
