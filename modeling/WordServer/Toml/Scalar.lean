import WordServer.Json.Binary64
import WordServer.Text.Decimal
import WordServer.Toml.Basic

/-!
# Numbers, truth values and dates of a settings file

These values are single words. A word is read as a whole: integers in four bases that fit in 64 bits
with sign, numbers with a fraction or an exponent, infinities, dates and times. Underscores may
stand between digits of a number.
-/

namespace WordServer.Toml

/-- The characters of a word. -/
def isWordPart (c : Char) : Bool :=
  c.isAlphanum || c == '+' || c == '-' || c == '_' || c == '.' || c == ':'

/-- A sign at the front, if there is one, and the rest: whether it is a minus. -/
def splitSign : List Char → Bool × List Char
  | '-' :: rest => (true, rest)
  | '+' :: rest => (false, rest)
  | cs => (false, cs)

/-- The digits of a number without the underscores between them. -/
def grouped? (isDigit : Char → Bool) (cs : List Char) : Option (List Char) :=
  if (cs.splitOn '_').all (fun part => !part.isEmpty && part.all isDigit) then
    some (cs.filter (· != '_'))
  else none

/-- The digits of a decimal number that does not start with a needless zero. -/
def wholePart? (cs : List Char) : Option (List Char) :=
  (grouped? Char.isDigit cs).filter fun digits => digits.length = 1 || digits.head? != some '0'

/-- The value of digits of a base, if it is below `bound`. -/
def inBase? (base bound : Nat) (cs : List Char) : Option Nat := do
  let digits ← grouped? (fun c => (Text.hexValue? c).any (· < base)) cs
  Text.valueBelow? base bound (digits.filterMap Text.hexValue?)

/-- An integer of 64 bits with sign. -/
def integer? (word : List Char) : Option Int :=
  match word with
  | '0' :: 'x' :: rest => (inBase? 16 Text.signedBound rest).map Int.ofNat
  | '0' :: 'o' :: rest => (inBase? 8 Text.signedBound rest).map Int.ofNat
  | '0' :: 'b' :: rest => (inBase? 2 Text.signedBound rest).map Int.ofNat
  | _ =>
    let (negative, body) := splitSign word
    let bound := if negative then Text.signedBound + 1 else Text.signedBound
    (wholePart? body).bind (Text.digitsBelow? bound) |>.map fun n => if negative then -n else n

/-! ## Numbers with a fraction or an exponent -/

/-- Whether a character begins an exponent. -/
def isExponentMark (c : Char) : Bool :=
  c == 'e' || c == 'E'

/-- The value of an exponent behind its mark, cut off at the bound of counts. -/
def exponent? (cs : List Char) : Option Int := do
  let (negative, body) := splitSign cs
  let n : Int := Text.cappedValue Text.countBound (← grouped? Char.isDigit body)
  return if negative then -n else n

/-- The digits of the fraction and the exponent, one of which has to be there. -/
def fractionAndExponent? : List Char → Option (List Char × Int)
  | '.' :: rest => do
    let (fraction, behind) := rest.span (!isExponentMark ·)
    let digits ← grouped? Char.isDigit fraction
    match behind with
    | [] => return (digits, 0)
    | _ :: cs => return (digits, ← exponent? cs)
  | c :: rest => if isExponentMark c then (exponent? rest).map fun e => ([], e) else none
  | [] => none

/-- Whether `digits · 10 ^ exponent` rounds past the largest binary64 number. -/
def overflows (digits : List Char) (exponent : Int) : Bool :=
  let significant := digits.dropWhile (· == '0')
  let lead : Int := significant.length + exponent
  if significant.isEmpty || lead < 308 then false
  else if 310 < lead then true
  else
    let value := Text.digitsValue significant
    (if 0 ≤ exponent then Json.Magnitude.ofRatio? (value * Json.powerOfTen exponent.toNat) 1
      else Json.Magnitude.ofRatio? value (Json.powerOfTen (-exponent).toNat)).isNone

/-- Whether a word is a number with a fraction or an exponent. One that is too large is none, unless
it is negative. -/
def isFloat (word : List Char) : Bool :=
  let (negative, body) := splitSign word
  if body = ['i', 'n', 'f'] || body = ['n', 'a', 'n'] then true
  else
    let (whole, behind) := body.span (fun c => c != '.' && !isExponentMark c)
    match wholePart? whole, fractionAndExponent? behind with
    | some digits, some (fraction, exponent) =>
      negative || !overflows (digits ++ fraction) (exponent - fraction.length)
    | _, _ => false

/-! ## Dates and times -/

/-- The value of two digits, within bounds. -/
def twoDigits? (low high : Nat) (a b : Char) : Option Nat :=
  (Text.digits? [a, b]).filter fun n => low ≤ n && n ≤ high

/-- The number of days of a month. -/
def daysIn (year month : Nat) : Nat :=
  if month = 2 then
    if year % 4 = 0 && (year % 100 != 0 || year % 400 = 0) then 29 else 28
  else if month = 4 || month = 6 || month = 9 || month = 11 then 30
  else 31

/-- The text behind a date. -/
def afterDate? : List Char → Option (List Char)
  | a :: b :: c :: d :: '-' :: e :: f :: '-' :: g :: h :: rest => do
    let year ← Text.digits? [a, b, c, d]
    let month ← twoDigits? 1 12 e f
    let _ ← twoDigits? 1 (daysIn year month) g h
    return rest
  | _ => none

/-- The text behind the fraction of a second, if there is one. -/
def afterSecondFraction? : List Char → Option (List Char)
  | '.' :: rest =>
    match rest.span Char.isDigit with
    | ([], _) => none
    | (_, rest) => some rest
  | cs => some cs

/-- The text behind a time of day. -/
def afterTime? : List Char → Option (List Char)
  | a :: b :: ':' :: c :: d :: ':' :: e :: f :: rest => do
    let _ ← twoDigits? 0 23 a b
    let _ ← twoDigits? 0 59 c d
    let _ ← twoDigits? 0 60 e f
    afterSecondFraction? rest
  | _ => none

/-- Whether a text is nothing, or the distance of a time zone. -/
def isOffset : List Char → Bool
  | [] => true
  | ['Z'] | ['z'] => true
  | [sign, a, b, ':', c, d] =>
    (sign == '+' || sign == '-') && (twoDigits? 0 23 a b).isSome && (twoDigits? 0 59 c d).isSome
  | _ => false

/-- Whether a text is a time of day in a time zone, if one is given. -/
def isZonedTime (cs : List Char) : Bool :=
  (afterTime? cs).any isOffset

/-- Whether a word is a date. -/
def isDate (word : List Char) : Bool :=
  afterDate? word == some []

/-- Whether a word is a date, a time, or both. -/
def isMoment (word : List Char) : Bool :=
  afterTime? word == some [] ||
    match afterDate? word with
    | some [] => true
    | some (mark :: time) => (mark == 'T' || mark == 't') && isZonedTime time
    | none => false

/-- The value of a word. -/
def scalar? (word : List Char) : Option Toml :=
  if word = "true".toList then some (.boolean true)
  else if word = "false".toList then some (.boolean false)
  else if isMoment word then some .moment
  else if isFloat word then some .float
  else (integer? word).map .integer

end WordServer.Toml
