import WordServer.Json.Basic
import WordServer.Text.Decimal

/-!
# Records in JSON

A record is read from an object, whose other members are ignored, or from an array that holds the
fields in their declared order and nothing more. An optional field may be null, and may be missing
from an object; only a field with a default may be missing from the end of an array. A field that
is not optional is never null, default or not.
-/

namespace WordServer.Json

/-- The fields of a record that have not been read. -/
inductive Record where
  | named (members : Entries Json)
  | positional (items : List Json)

/-- Reads fields in their declared order. -/
abbrev Fields (α : Type) := StateT Record Option α

namespace Fields

variable {α : Type}

/-- The next field's value, if it is there. -/
def next (name : String) : Fields (Option Json) := fun record =>
  match record with
  | .named members => some (Entries.lookup name members, record)
  | .positional (item :: rest) => some (some item, .positional rest)
  | .positional [] => some (none, record)

/-- Whether fields are given by name. -/
def byName : Fields Bool := fun record =>
  match record with
  | .named _ => some (true, record)
  | .positional _ => some (false, record)

/-- A field that has to be there. -/
def required (name : String) (read : Json → Option α) : Fields α := do
  match ← next name with
  | some value => read value
  | none => failure

/-- A value that may be null. -/
def nullable (read : Json → Option α) : Json → Option (Option α)
  | .null => some none
  | value => (read value).map some

/-- A field that may be null, or missing from an object. -/
def optional (name : String) (read : Json → Option α) : Fields (Option α) := do
  match ← next name with
  | some value => nullable read value
  | none => if ← byName then return none else failure

/-- A field that has a default. -/
def defaulted (name : String) (default : α) (read : Json → Option α) : Fields α := do
  match ← next name with
  | some value => read value
  | none => return default

/-- A field that may be null or missing. -/
def spare (name : String) (read : Json → Option α) : Fields (Option α) :=
  defaulted name none (nullable read)

end Fields

variable {α : Type}

/-- Reads a record. -/
def record? (fields : Fields α) : Json → Option α
  | .obj members => (fields (.named members)).map Prod.fst
  | .arr items =>
    match fields (.positional items) with
    | some (value, .positional []) => some value
    | _ => none
  | _ => none

/-- Reads an array of values of one kind. -/
def list? (read : Json → Option α) : Json → Option (List α)
  | .arr items => items.mapM read
  | _ => none

/-- Reads an integer of a range. -/
def intWithin? (low high : Int) : Json → Option Int
  | .int n => if low ≤ n ∧ n ≤ high then some n else none
  | _ => none

/-- Reads a signed 64-bit integer. -/
def int64? : Json → Option Int :=
  intWithin? (-Text.signedBound) (Text.signedBound - 1)

/-- Reads an unsigned 64-bit integer. -/
def nat64? (value : Json) : Option Nat :=
  (intWithin? 0 (Text.countBound - 1) value).map Int.toNat

end WordServer.Json
