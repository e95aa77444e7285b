import WordServer.Credentials.Block
import WordServer.Credentials.Der
import WordServer.FileTree

/-!
# Credentials

A server that speaks TLS needs a certificate and a private key, each in a file of labelled blocks.
All certificates of a file are read, and its private keys up to the first. Then the key and the
first certificate have to be of the outer form that their kinds prescribe.
-/

namespace WordServer.Credentials

/-- The two things that are needed. -/
inductive Part where
  | certificate
  | privateKey
  deriving DecidableEq, Repr

/-- The kinds of blocks that hold a part. -/
def Part.kinds : Part → List BlockKind
  | .certificate => [.certificate]
  | .privateKey => [.privateKey, .rsaPrivateKey, .ecPrivateKey]

/-- Why there are no credentials. -/
inductive Fault where
  | unopened (path : String) (cause : SystemFault)
  | unreadable (part : Part) (path : String) (cause : SystemFault)
  | malformed (part : Part) (path : String) (cause : BlockFault)
  | absent (part : Part) (path : String)
  /-- A part is not of the form of its kind; the path is that of the certificate. -/
  | unusable (part : Part) (path : String)
  deriving DecidableEq, Repr

/-- A part that is not what it should be, in words. -/
def Part.invalid : Part → String
  | .certificate => "Invalid certificate "
  | .privateKey => "Invalid private key "

/-- The cause in words. -/
def Fault.message : Fault → String
  | .unopened path cause => "Failed to open " ++ path ++ ": " ++ cause.message
  | .unreadable part path cause => part.invalid ++ path ++ ": " ++ cause.message
  | .malformed part path cause => part.invalid ++ path ++ ": " ++ cause.message
  | .absent .certificate path => "No certificates found in " ++ path
  | .absent .privateKey path => "No private key found in " ++ path
  | .unusable .certificate path => path ++ ": invalid peer certificate: BadEncoding"
  | .unusable .privateKey path =>
    path ++ ": unexpected error: failed to parse private key as RSA, ECDSA, or EdDSA"

/-- The first of some blocks that holds a part. All certificates are read, so what spoils the text
behind one is a fault; private keys are read up to the first. -/
def partOf (part : Part) (path : String) (blocks : List Block) (spoilt : Option BlockFault) :
    Except Fault Block :=
  match blocks.find? (·.kind ∈ part.kinds), part, spoilt with
  | some block, .privateKey, _ => .ok block
  | some block, .certificate, none => .ok block
  | _, _, some cause => .error (.malformed part path cause)
  | none, _, none => .error (.absent part path)

/-- The first block in a file that holds a part. -/
def loadPart (tree : FileTree) (part : Part) (path : String) : Except Fault Block :=
  match tree.read path with
  | .error .isDirectory => .error (.unreadable part path .isDirectory)
  | .error cause => .error (.unopened path cause)
  | .ok content =>
    let (blocks, spoilt) := blocksOf content
    partOf part path blocks spoilt

/-- Whether what a block holds has the outer form that its kind prescribes for certificates and
private keys. A certificate is its body, an algorithm and a signature; a private key is a version
and then an algorithm and the key, eight numbers, or the key itself. -/
def Block.isUsable (block : Block) : Bool :=
  match Der.sequenceTags? block.content with
  | none => false
  | some tags =>
    match block.kind with
    | .certificate => tags == [Der.sequence, Der.sequence, Der.bitString]
    | .privateKey => [Der.integer, Der.sequence, Der.octetString].isPrefixOf tags
    | .rsaPrivateKey => tags == List.replicate 9 Der.integer
    | .ecPrivateKey => [Der.integer, Der.octetString].isPrefixOf tags
    | _ => false

/-- Checks that there are a certificate and a private key that can be used. -/
def load (tree : FileTree) (certificate privateKey : String) : Except Fault Unit := do
  let certificateBlock ← loadPart tree .certificate certificate
  let keyBlock ← loadPart tree .privateKey privateKey
  if !keyBlock.isUsable then throw (.unusable .privateKey certificate)
  if !certificateBlock.isUsable then throw (.unusable .certificate certificate)

end WordServer.Credentials
