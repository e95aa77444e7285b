import WordServer.Text.Utf8

/-!
# Files

The files that the program sees: plain files, directories and local sockets, under its working
directory or under the root of the file system. Of the directories above the working directory it is
known that they are there, and of the root what every system keeps under it. A path is walked name
by name, so what stands in the way of a walk decides its fault. The faults have the texts that the
system gives them.
-/

namespace WordServer

/-- Why a file or a connection cannot be used. -/
inductive SystemFault where
  | notFound
  | noDevice
  /-- There is no network interface of a number. -/
  | noInterface
  | notDirectory
  | isDirectory
  | invalidArgument
  | nameTooLong
  | addressUnavailable
  | networkUnreachable
  | refused
  | notText
  /-- A path holds the character that ends paths for the system. -/
  | nulInPath
  /-- The path of a local socket holds that character behind its start. -/
  | nulInSocketPath
  | socketPathTooLong
  | socketNameTooLong
  | notSocket (path : String)
  deriving DecidableEq, Repr

/-- The cause in words. -/
def SystemFault.message : SystemFault → String
  | .notFound => "No such file or directory (os error 2)"
  | .noDevice => "No such device or address (os error 6)"
  | .noInterface => "No such device (os error 19)"
  | .notDirectory => "Not a directory (os error 20)"
  | .isDirectory => "Is a directory (os error 21)"
  | .invalidArgument => "Invalid argument (os error 22)"
  | .nameTooLong => "File name too long (os error 36)"
  | .addressUnavailable => "Cannot assign requested address (os error 99)"
  | .networkUnreachable => "Network is unreachable (os error 101)"
  | .refused => "Connection refused (os error 111)"
  | .notText => "stream did not contain valid UTF-8"
  | .nulInPath => "file name contained an unexpected NUL byte"
  | .nulInSocketPath => "paths must not contain interior null bytes"
  | .socketPathTooLong => "path must be shorter than SUN_LEN"
  | .socketNameTooLong => "abstract socket name must be shorter than SUN_LEN"
  | .notSocket path => path ++ " exists and is not a socket"

/-- What stands under a name. -/
inductive FileNode where
  | file (content : List UInt8)
  | directory
  /-- A local socket, which nobody needs to be listening on. -/
  | socket
  deriving DecidableEq, Repr

/-- The names that lead to a place, from the working directory or, behind a slash, from the root;
two dots lead to the directory above the working directory and on. -/
abbrev Place := List String

namespace Place

/-- The root of the file system. -/
def root : Place := ["/"]

/-- Whether a place is the working directory or a directory above it. -/
def isAbove (place : Place) : Bool :=
  place.all (· == "..")

/-- The directory that holds a place; the root is held by itself. -/
def parent (place : Place) : Place :=
  if place = root then root
  else if place.isAbove then ".." :: place
  else place.dropLast

/-- The place that a name leads to; an empty one stands where a slash adds nothing. -/
def enter (here : Place) (name : String) : Place :=
  if name.isEmpty || name == "." then here
  else if name = ".." then here.parent
  else here ++ [name]

end Place

/-- The directories that every system keeps under its root. -/
def systemDirectories : List String := ["bin", "dev", "etc", "lib", "proc", "tmp", "usr", "var"]

/-- What every system has: directories, and a file that is always empty. -/
def systemNode? (place : Place) : Option FileNode :=
  if place.isAbove || place == .root then some .directory
  else if place ∈ systemDirectories.map (Place.root ++ [·]) then some .directory
  else if place = Place.root ++ ["dev", "null"] then some (.file [])
  else none

/-- The places that exist besides those of every system. -/
structure FileTree where
  nodes : List (Place × FileNode)
  deriving DecidableEq, Repr

namespace FileTree

/-- Nothing but what every system has. -/
def empty : FileTree := ⟨[]⟩

/-- What stands at a place. -/
def at? (tree : FileTree) (place : Place) : Option FileNode :=
  (tree.nodes.find? (·.1 == place)).map Prod.snd <|> systemNode? place

/-- The tree with something at a place. -/
def put (tree : FileTree) (place : Place) (node : FileNode) : FileTree :=
  ⟨(place, node) :: tree.nodes.filter (·.1 != place)⟩

/-- The tree with nothing at a place. -/
def erase (tree : FileTree) (place : Place) : FileTree :=
  ⟨tree.nodes.filter (·.1 != place)⟩

/-- The tree with a directory at a place, unless something is there. -/
def ensureDirectory (tree : FileTree) (place : Place) : FileTree :=
  if (tree.at? place).isSome then tree else tree.put place .directory

/-- The names in a path. -/
def namesOf (path : String) : List String :=
  (path.toList.splitOn '/').map String.ofList

/-- The place where a path starts. -/
def startOf (path : String) : Place :=
  if path.startsWith "/" then .root else []

/-- The tree with something at a path. Every directory that the path leads through is made on the
way, also one that two dots leave again. -/
def add (tree : FileTree) (path : String) (node : FileNode) : FileTree :=
  let step : Place × FileTree → String → Place × FileTree := fun (here, tree) name =>
    (here.enter name, tree.ensureDirectory (here.enter name))
  let names := namesOf path
  let (above, tree) := names.dropLast.foldl step (startOf path, tree)
  tree.put (above.enter (names.getLastD "")) node

/-- The tree of files given by their paths. -/
def ofList (files : List (String × FileNode)) : FileTree :=
  files.foldl (fun tree (path, node) => tree.add path node) empty

/-- The longest name, in bytes. -/
def longestName : Nat := 255

/-- The longest path, in bytes. -/
def longestPath : Nat := 4095

/-- Walks from a place. Every name is looked up in a directory. -/
def walk (tree : FileTree) : (here : Place) → List String → Except SystemFault Place
  | here, [] => if (tree.at? here).isSome then .ok here else .error .notFound
  | here, name :: rest =>
    if (tree.at? here).isNone then .error .notFound
    else if tree.at? here ≠ some .directory then .error .notDirectory
    else if longestName < name.utf8ByteSize then .error .nameTooLong
    else walk tree (here.enter name) rest

/-- The character that ends paths for the system. -/
def nul : Char := Char.ofNat 0

/-- The place that a path leads to; an empty path leads nowhere. -/
def find (tree : FileTree) (path : String) : Except SystemFault Place :=
  if nul ∈ path.toList then .error .nulInPath
  else if path.isEmpty then .error .notFound
  else if longestPath < path.utf8ByteSize then .error .nameTooLong
  else tree.walk (startOf path) (namesOf path)

/-- What stands at a path. -/
def node (tree : FileTree) (path : String) : Except SystemFault FileNode := do
  let place ← tree.find path
  match tree.at? place with
  | some node => return node
  | none => throw .notFound

/-- Whether a path leads to something. -/
def contains (tree : FileTree) (path : String) : Bool :=
  match tree.node path with
  | .ok _ => true
  | .error _ => false

/-- The content of a plain file. -/
def read (tree : FileTree) (path : String) : Except SystemFault (List UInt8) := do
  match ← tree.node path with
  | .file content => return content
  | .directory => throw .isDirectory
  | .socket => throw .noDevice

/-- The text of a plain file. -/
def readText (tree : FileTree) (path : String) : Except SystemFault (List Char) := do
  (Text.Utf8.decode (← tree.read path)).mapError fun _ => .notText

/-- Room for the path of a local socket, in bytes. -/
def socketPathRoom : Nat := 108

/-- The tree with a local socket at a path, whose directory has to be there. -/
def makeSocket (tree : FileTree) (path : String) : Except SystemFault FileTree := do
  if socketPathRoom ≤ path.utf8ByteSize then throw .socketPathTooLong
  let names := namesOf path
  let above ← tree.walk (startOf path) names.dropLast
  if tree.at? above ≠ some .directory then throw .notDirectory
  match names.getLast? with
  | some name =>
    if name.isEmpty then throw .notFound
    if longestName < name.utf8ByteSize then throw .nameTooLong
    return tree.put (above ++ [name]) .socket
  | none => throw .notFound

/-- Makes room for a local socket: an old one is removed, and anything else at the path stays and is
in the way. -/
def removeStaleSocket (tree : FileTree) (path : String) : Except SystemFault FileTree :=
  match tree.find path with
  | .error .notFound => .ok tree
  | .error fault => .error fault
  | .ok place =>
    if tree.at? place = some .socket then .ok (tree.erase place) else .error (.notSocket path)

/-- The place that a connection to the path of a local socket goes to. Behind the character that
ends paths stands the name of a socket outside of the files, and on those nobody listens. -/
def socketPlace (tree : FileTree) (path : String) : Except SystemFault Place :=
  if path.toList.head? = some nul then
    .error (if socketPathRoom < path.utf8ByteSize then .socketNameTooLong else .refused)
  else if nul ∈ path.toList then .error .nulInSocketPath
  else if socketPathRoom ≤ path.utf8ByteSize then .error .socketPathTooLong
  else tree.find path

end FileTree

end WordServer
