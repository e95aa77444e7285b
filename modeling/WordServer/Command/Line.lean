import WordServer.Text.Cut
import WordServer.Text.Decimal

/-!
# Command lines

A command line is words, read from left to right. A level of it has options, places for other words,
and subcommands; the first word that names a subcommand ends the level. Options are `--name value`,
`--name=value`, `-n value`, `-nvalue` or `-n=value`, and short ones without a value can be put
together. After `--` every word is taken as it is.

The first fault that is met decides. An option whose value is a word of its own is checked when the
next option or other word that is known has been met, or at the end: a word that is not known is a
fault before the value that it follows.
-/

namespace WordServer.Command

/-- Why a command line is not carried out. -/
inductive UsageFault where
  /-- Help is asked for. -/
  | help
  /-- The version of a program is asked for. -/
  | version (program : String)
  /-- There is nothing but the program's name. -/
  | nothingGiven
  | missingSubcommand
  | invalidSubcommand
  | unknownArgument
  /-- A value is missing, or empty where it may not be. -/
  | invalidValue
  /-- A value is not a number of its range. -/
  | unreadableValue
  | conflict
  | missingArgument
  /-- A value is attached to an option that takes none. -/
  | surplusValue
  deriving DecidableEq, Repr

/-- The exit code of a command line that is not carried out. -/
def UsageFault.exitCode : UsageFault → Nat
  | .help | .version _ => 0
  | _ => 2

/-- What a value has to be. -/
inductive ValueShape where
  | text
  /-- A text that is not empty. -/
  | path
  /-- A count of 64 bits. -/
  | count
  | port
  deriving DecidableEq, Repr

/-- The port that a text is. -/
def portOf? (text : String) : Option UInt16 :=
  (Text.readBetween 0 65535 text.toList).map fun n => UInt16.ofNat n.toNat

/-- The count that a text is. -/
def countOf? (text : String) : Option Nat :=
  Text.readBelow Text.countBound text.toList

/-- Checks a value. -/
def ValueShape.check (shape : ValueShape) (text : String) : Except UsageFault Unit :=
  match shape with
  | .text => .ok ()
  | .path => if text.isEmpty then .error .invalidValue else .ok ()
  | .count => if (countOf? text).isSome then .ok () else .error .unreadableValue
  | .port => if (portOf? text).isSome then .ok () else .error .unreadableValue

/-- What an option does. -/
inductive Role where
  | value (shape : ValueShape)
  | flag
  | help
  | version
  deriving DecidableEq, Repr

/-- An option by its names. -/
structure OptionRule where
  name : String
  short : Option Char := none
  role : Role
  deriving DecidableEq, Repr

/-- What a level of a command line may hold. -/
structure Level where
  program : String
  options : List OptionRule
  /-- How many other words there may be. -/
  places : Nat
  subcommands : List String
  deriving DecidableEq, Repr

/-- An option that has been named and whose value has not been checked; it may still be to come. -/
structure Pending where
  name : String
  shape : ValueShape
  value : Option String
  deriving DecidableEq, Repr

/-- What the words of a level have said. -/
structure Gathered where
  values : List (String × String) := []
  flags : List String := []
  words : List String := []
  pending : Option Pending := none
  /-- Whether words are taken as they are. -/
  verbatim : Bool := false
  deriving DecidableEq, Repr

namespace Gathered

/-- The value of an option. -/
def value? (gathered : Gathered) (name : String) : Option String :=
  (gathered.values.find? (·.1 == name)).map Prod.snd

/-- Whether an option has a value. -/
def hasValue (gathered : Gathered) (name : String) : Bool :=
  (gathered.value? name).isSome

/-- Whether a flag is set. -/
def hasFlag (gathered : Gathered) (name : String) : Bool :=
  name ∈ gathered.flags

/-- Whether nothing has been said. -/
def isBare (gathered : Gathered) : Bool :=
  gathered.values.isEmpty && gathered.flags.isEmpty

/-- Whether the next word is the value of an option. -/
def awaitsValue (gathered : Gathered) : Bool :=
  match gathered.pending with
  | some pending => pending.value.isNone
  | none => false

/-- Takes the value of an option, which may be given once. -/
def takeValue (gathered : Gathered) (name : String) (shape : ValueShape) :
    Option String → Except UsageFault Gathered
  | none => .error .invalidValue
  | some text =>
    if gathered.hasValue name then .error .conflict
    else
      (shape.check text).map fun () =>
        { gathered with values := gathered.values ++ [(name, text)] }

/-- Checks the option whose value has not been checked. -/
def resolve (gathered : Gathered) : Except UsageFault Gathered :=
  match gathered.pending with
  | none => .ok gathered
  | some pending =>
    { gathered with pending := none }.takeValue pending.name pending.shape pending.value

/-- Takes an option without a value, or asks for its value. -/
def takeOption (gathered : Gathered) (level : Level) (rule : OptionRule) :
    Except UsageFault Gathered := do
  let gathered ← gathered.resolve
  match rule.role with
  | .value shape => return { gathered with pending := some ⟨rule.name, shape, none⟩ }
  | .flag =>
    if gathered.hasFlag rule.name then throw .conflict
    return { gathered with flags := gathered.flags ++ [rule.name] }
  | .help => throw .help
  | .version => throw (.version level.program)

/-- Takes an option with a value that is attached to it. -/
def takeAttached (gathered : Gathered) (rule : OptionRule) (text : List Char) :
    Except UsageFault Gathered :=
  match rule.role with
  | .value shape => do (← gathered.resolve).takeValue rule.name shape (some (String.ofList text))
  | _ => .error .surplusValue

/-- Takes a long option, without its dashes. -/
def takeLong (gathered : Gathered) (level : Level) (body : List Char) :
    Except UsageFault Gathered :=
  let (name, attached) : List Char × Option (List Char) := match Text.cutFirst '=' body with
    | some (name, value) => (name, some value)
    | none => (body, none)
  match level.options.find? (·.name.toList == name) with
  | none => .error .unknownArgument
  | some rule =>
    match attached with
    | none => gathered.takeOption level rule
    | some text => gathered.takeAttached rule text

/-- Takes short options that are put together, without their dash. -/
def takeShorts (level : Level) : Gathered → List Char → Except UsageFault Gathered
  | gathered, [] => .ok gathered
  | gathered, c :: rest =>
    match level.options.find? (·.short == some c) with
    | none => .error .unknownArgument
    | some rule =>
      match rule.role, rest with
      | .value _, '=' :: text => gathered.takeAttached rule text
      | .value _, first :: text => gathered.takeAttached rule (first :: text)
      | _, _ => do takeShorts level (← gathered.takeOption level rule) rest

/-- Takes a word that is no option. -/
def takeWord (gathered : Gathered) (level : Level) (word : String) :
    Except UsageFault Gathered :=
  if gathered.words.length < level.places then
    gathered.resolve.map fun gathered => { gathered with words := gathered.words ++ [word] }
  else if level.subcommands.isEmpty || (gathered.verbatim && word ∈ level.subcommands) then
    .error .unknownArgument
  else .error .invalidSubcommand

/-- Takes a word as the value that an option awaits, or else as it is. -/
def takePlain (gathered : Gathered) (level : Level) (word : String) :
    Except UsageFault Gathered :=
  match gathered.pending with
  | some ⟨name, shape, none⟩ => .ok { gathered with pending := some ⟨name, shape, some word⟩ }
  | _ => gathered.takeWord level word

/-- Takes a word that names no subcommand. -/
def take (gathered : Gathered) (level : Level) (word : String) : Except UsageFault Gathered :=
  if gathered.verbatim then gathered.takeWord level word
  else
    match word.toList with
    | ['-', '-'] => .ok { gathered with verbatim := true }
    | '-' :: '-' :: body => gathered.takeLong level body
    | '-' :: c :: rest => takeShorts level gathered (c :: rest)
    | _ => gathered.takePlain level word

end Gathered

/-- The words of a level, and the subcommand that ends it with the words behind. -/
def readLevel (level : Level) :
    Gathered → List String → Except UsageFault (Gathered × Option (String × List String))
  | gathered, [] => .ok (gathered, none)
  | gathered, word :: rest =>
    if !gathered.verbatim && !gathered.awaitsValue && word ∈ level.subcommands then
      .ok (gathered, some (word, rest))
    else do readLevel level (← gathered.take level word) rest

end WordServer.Command
