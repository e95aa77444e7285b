import WordServer.Json.Record
import WordServer.Text.Quoted

/-!
# Request identifiers

An identifier is a string or an integer of 64 bits, signed or unsigned, and comes back in the reply
as it was sent. An integer that has both forms is signed.
-/

namespace WordServer

/-- What names a request. -/
inductive RequestId where
  | number (n : Int)
  /-- An integer past the signed ones. -/
  | unsigned (n : Nat)
  | text (s : String)
  deriving DecidableEq, Repr

namespace RequestId

/-- The integers that have a signed form. -/
def IsSigned (n : Int) : Prop := -Text.signedBound ≤ n ∧ n < Text.signedBound

instance (n : Int) : Decidable (IsSigned n) := inferInstanceAs (Decidable (_ ∧ _))

/-- The identifier that a value is. -/
def ofJson? : Json → Option RequestId
  | .str s => some (.text s)
  | .int n =>
    if IsSigned n then some (.number n)
    else if 0 ≤ n ∧ n < Text.countBound then some (.unsigned n.toNat)
    else none
  | _ => none

/-- The first form of an identifier that a value can be read as. -/
def read? (value : Json) : Option RequestId :=
  value.int64?.map .number <|> value.nat64?.map .unsigned <|> value.string?.map .text

/-- The identifier as a value. -/
def toJson : RequestId → Json
  | .number n => .int n
  | .unsigned n => .int n
  | .text s => .str s

/-- The identifier in words: a number as it is, a string in quotes. -/
def display : RequestId → String
  | .number n => String.ofList (Text.signedDecimal n)
  | .unsigned n => String.ofList (Text.decimal n)
  | .text s => String.ofList (Text.quoted s.toList)

end RequestId

end WordServer
