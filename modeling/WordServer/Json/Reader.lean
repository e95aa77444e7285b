import WordServer.Json.Basic
import WordServer.Text.Decimal
import WordServer.Text.Reads

/-!
# Reading JSON

A strict reader: no comments, no blanks but space, tab, carriage return and line feed, no raw
controls in strings, no surrogate escape without its partner, no leading zeros, and nothing after
the value. Arrays and objects nest at most 127 deep; the nesting that is still allowed is the
argument on which the reader recurses. Of a repeated member name the last value stays.
-/

namespace WordServer.Json

open Text (Reads)

/-- The characters between tokens. -/
def isGap (c : Char) : Bool :=
  c == ' ' || c == '\n' || c == '\t' || c == '\r'

/-- The text from its first token on. -/
def skipGap (cs : List Char) : List Char :=
  cs.dropWhile isGap

/-! ## Strings -/

/-- The value of four hexadecimal digits. -/
def hex4? (a b c d : Char) : Option Nat := do
  return ((← Text.hexValue? a) * 16 + (← Text.hexValue? b)) * 256 +
    ((← Text.hexValue? c) * 16 + (← Text.hexValue? d))

/-- The character of a one-letter escape. -/
def shortEscape? (c : Char) : Option Char :=
  if c = '"' then some '"'
  else if c = '\\' then some '\\'
  else if c = '/' then some '/'
  else if c = 'b' then some (Char.ofNat 8)
  else if c = 'f' then some (Char.ofNat 12)
  else if c = 'n' then some '\n'
  else if c = 'r' then some '\r'
  else if c = 't' then some '\t'
  else none

/-- Half of a code point beyond the basic plane: the first half. -/
def isHighSurrogate (n : Nat) : Bool := 0xD800 ≤ n && n ≤ 0xDBFF

/-- Half of a code point beyond the basic plane: the second half. -/
def isLowSurrogate (n : Nat) : Bool := 0xDC00 ≤ n && n ≤ 0xDFFF

/-- The characters of a string up to its closing quote; `done` holds those before, last first. -/
def stringRest (done : List Char) : Reads (List Char)
  | [] => none
  | c :: rest =>
    if c = '"' then some (done.reverse, rest)
    else if c.toNat < 0x20 then none
    else if c = '\\' then
      match rest with
      | [] => none
      | e :: rest =>
        if e = 'u' then
          match rest with
          | a :: b :: c :: d :: rest =>
            match hex4? a b c d with
            | none => none
            | some n =>
              if isHighSurrogate n then
                match rest with
                | '\\' :: 'u' :: a :: b :: c :: d :: rest =>
                  match hex4? a b c d with
                  | none => none
                  | some low =>
                    if isLowSurrogate low then
                      let value := 0x10000 + (n - 0xD800) * 0x400 + (low - 0xDC00)
                      stringRest (Char.ofNat value :: done) rest
                    else none
                | _ => none
              else if isLowSurrogate n then none
              else stringRest (Char.ofNat n :: done) rest
          | _ => none
        else
          match shortEscape? e with
          | none => none
          | some c => stringRest (c :: done) rest
    else stringRest (c :: done) rest

/-! ## Numbers -/

/-- The digits at the front, and the rest. -/
def digitRun (cs : List Char) : List Char × List Char :=
  cs.span Char.isDigit

/-- The whole part of a number: a zero alone, or digits that do not start with one. -/
def wholeDigits : Reads (List Char)
  | '0' :: rest =>
    match rest with
    | c :: _ => if c.isDigit then none else some (['0'], rest)
    | [] => some (['0'], rest)
  | cs =>
    match digitRun cs with
    | ([], _) => none
    | run => some run

/-- The digits after a point, if there is one; a point without digits is refused. -/
def fractionDigits : Reads (List Char)
  | '.' :: rest =>
    match digitRun rest with
    | ([], _) => none
    | run => some run
  | cs => some ([], cs)

/-- The exponent, if there is one; an exponent without digits is refused. What goes past the bound
of counts is cut off there, since it takes every number to nothing or beyond all bounds. -/
def exponentPart : Reads (Option Int)
  | c :: rest =>
    if c = 'e' || c = 'E' then
      let (sign, rest) : Int × List Char := match rest with
        | '+' :: rest => (1, rest)
        | '-' :: rest => (-1, rest)
        | rest => (1, rest)
      match digitRun rest with
      | ([], _) => none
      | (digits, rest) => some (some (sign * Text.cappedValue Text.countBound digits), rest)
    else some (none, c :: rest)
  | [] => some (none, [])

/-- The digits that fit in 64 bits, from the front, after `n`; and how many are left over. -/
def leadingDigits (n : Nat) : List Char → Nat × Nat
  | [] => (n, 0)
  | c :: rest =>
    let next := n * 10 + Text.digitValue c
    if next < Text.countBound then leadingDigits next rest else (n, rest.length + 1)

/-- The number with the given sign, digits and exponent. Without fraction and exponent it is an
integer if it fits in 64 bits, signed or unsigned; a negative zero is none. -/
def number? (negative : Bool) (whole fraction : List Char) (exponent : Option Int) :
    Option Json :=
  let (head, dropped) := leadingDigits 0 whole
  if fraction.isEmpty && exponent.isNone && dropped == 0 && !negative then
    some (.int head)
  else if fraction.isEmpty && exponent.isNone && dropped == 0 && head != 0 &&
      head ≤ Text.signedBound then
    some (.int (-(head : Int)))
  else
    let (significand, unused) := leadingDigits head fraction
    let kept : Int := (fraction.length : Int) - unused
    (Binary64.ofDecimal? negative significand (dropped - kept + exponent.getD 0)).map .float

/-- A number after its sign. -/
def unsignedNumber (negative : Bool) : Reads Json := fun cs => do
  let (whole, cs) ← wholeDigits cs
  let (fraction, cs) ← fractionDigits cs
  let (exponent, cs) ← exponentPart cs
  let value ← number? negative whole fraction exponent
  return (value, cs)

/-- A number. -/
def number : Reads Json
  | '-' :: rest => unsignedNumber true rest
  | cs => unsignedNumber false cs

/-! ## Values -/

/-- A literal word. -/
def word (letters : List Char) (value : Json) : Reads Json := fun cs =>
  if letters.isPrefixOf cs then some (value, cs.drop letters.length) else none

/-- A value that holds no other. -/
def scalar : Reads Json
  | [] => none
  | c :: rest =>
    if c = 'n' then word ['u', 'l', 'l'] .null rest
    else if c = 't' then word ['r', 'u', 'e'] (.bool true) rest
    else if c = 'f' then word ['a', 'l', 's', 'e'] (.bool false) rest
    else if c = '"' then (stringRest [] rest).map fun read => (.text read.1, read.2)
    else number (c :: rest)

/-- The items after a first one, each after a comma, up to `close`; `done` holds those before, last
first. Every item takes a character, so `room`, which starts as the text itself, is used up only
when the text is. -/
def moreItems {α : Type} (item : Reads α) (close : Char) :
    (room : List Char) → (done : List α) → Reads (List α)
  | [], _, _ => none
  | _ :: room, done, cs =>
    match skipGap cs with
    | [] => none
    | c :: rest =>
      if c = close then some (done.reverse, rest)
      else if c = ',' then
        match item (skipGap rest) with
        | none => none
        | some (x, rest) => moreItems item close room (x :: done) rest
      else none

/-- Items between an opening bracket, which has been read, and `close`. -/
def items {α : Type} (item : Reads α) (close : Char) : Reads (List α) := fun cs =>
  match skipGap cs with
  | [] => none
  | c :: rest =>
    if c = close then some ([], rest)
    else
      match item (c :: rest) with
      | none => none
      | some (x, rest) => moreItems item close rest [x] rest

/-- A member of an object: a string, a colon and a value. -/
def memberOf (value : Reads Json) : Reads (String × Json)
  | '"' :: rest => do
    let (name, rest) ← stringRest [] rest
    match skipGap rest with
    | ':' :: rest =>
      let (v, rest) ← value (skipGap rest)
      return ((String.ofList name, v), rest)
    | _ => none
  | _ => none

/-- A value in which arrays and objects nest at most `depth` deep. -/
def value : (depth : Nat) → Reads Json
  | 0 => scalar
  | depth + 1 => fun cs =>
    match cs with
    | '[' :: rest => (items (value depth) ']' rest).map fun read => (.arr read.1, read.2)
    | '\x7b' :: rest =>
      (items (memberOf (value depth)) '\x7d' rest).map fun read => (.object read.1, read.2)
    | _ => scalar cs

/-- How deep arrays and objects may nest. -/
def greatestDepth : Nat := 127

/-- The value of a whole text. -/
def read? (cs : List Char) : Option Json :=
  match value greatestDepth (skipGap cs) with
  | some (v, rest) => if (skipGap rest).isEmpty then some v else none
  | none => none

end WordServer.Json
