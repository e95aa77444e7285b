/-!
# Decimal numerals

Lengths, ports and counts are read as digits with at most one plus sign in front and no other
mark; leading zeros are allowed, and the value has to stay below a bound. They are written without
sign and without leading zeros, so that what is written reads back.
-/

namespace WordServer.Text

/-- The digits of a number, most significant first. -/
def decimal (n : Nat) : List Char :=
  Nat.toDigits 10 n

/-- The digits of an integer, after a minus sign if it is negative. -/
def signedDecimal : Int → List Char
  | .ofNat n => decimal n
  | .negSucc n => '-' :: decimal (n + 1)

/-- Digits without the zeros at their end; one digit stays. -/
def dropEndZeros (digits : List Char) : List Char :=
  match (digits.reverse.dropWhile (· == '0')).reverse with
  | [] => digits.take 1
  | kept => kept

/-- The value of a decimal digit. -/
def digitValue (c : Char) : Nat :=
  c.toNat - 48

/-- The value of a run of digits. -/
def digitsValue (cs : List Char) : Nat :=
  cs.foldl (fun n c => 10 * n + digitValue c) 0

/-- The value of a text that is one or more digits and nothing else. -/
def digits? (cs : List Char) : Option Nat :=
  if cs.isEmpty || !cs.all Char.isDigit then none else some (digitsValue cs)

/-- Drops one plus sign. -/
def dropPlus : List Char → List Char
  | '+' :: rest => rest
  | cs => cs

/-- The value of digits of a base, if it is below `bound`: of too many digits not all are looked
at. -/
def valueBelow? (base bound : Nat) (digits : List Nat) : Option Nat :=
  digits.foldlM (fun n d => Option.guard (· < bound) (base * n + d)) 0

/-- The value of a text that is one or more digits and nothing else, if it is below `bound`. -/
def digitsBelow? (bound : Nat) (cs : List Char) : Option Nat :=
  if cs.isEmpty || !cs.all Char.isDigit then none else valueBelow? 10 bound (cs.map digitValue)

/-- The value of a run of digits, or `cap` where it is greater. -/
def cappedValue (cap : Nat) (cs : List Char) : Nat :=
  cs.foldl (fun n c => min cap (10 * n + digitValue c)) 0

/-- Reads a numeral whose value is below `bound`. -/
def readBelow (bound : Nat) (cs : List Char) : Option Nat :=
  digitsBelow? bound (dropPlus cs)

/-- Reads an integer numeral between `low` and `high`; a minus sign is allowed. -/
def readBetween (low high : Int) (cs : List Char) : Option Int :=
  let value : Option Int := match cs with
    | '-' :: rest => (digitsBelow? ((-low).toNat + 1) rest).map fun n => -(n : Int)
    | _ => (digitsBelow? (high.toNat + 1) (dropPlus cs)).map fun n => (n : Int)
  value.filter fun n => low ≤ n && n ≤ high

/-- The bound of 64-bit counts. -/
def countBound : Nat := UInt64.size

/-- The bound of 64-bit integers with sign; its negative is the least of them. -/
def signedBound : Nat := 9223372036854775808

/-- The value of a hexadecimal digit of either case. -/
def hexValue? (c : Char) : Option Nat :=
  let n := c.toNat
  if 48 ≤ n && n ≤ 57 then some (n - 48)
  else if 97 ≤ n && n ≤ 102 then some (n - 87)
  else if 65 ≤ n && n ≤ 70 then some (n - 55)
  else none

/-- The digits of a number in lower-case hexadecimal. -/
def hexadecimal (n : Nat) : List Char :=
  Nat.toDigits 16 n

end WordServer.Text
