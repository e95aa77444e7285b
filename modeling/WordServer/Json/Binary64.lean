/-!
# Binary64 values

Numbers with a fraction or an exponent, and integers outside 64 bits, are held as finite binary64
values: a sign and `mantissa · 2 ^ exponent`. The mantissa has at most 53 bits, and fewer only at
the least exponent, so equal values are equal terms. All arithmetic is exact on natural numbers with
one rounding to nearest, ties to even, at the end.

A decimal literal is read in two rounded steps: its leading digits as an integer, then a scaling by
a power of ten.
-/

namespace WordServer.Json

/-- A power of two. -/
def powerOfTwo (n : Nat) : Nat := Nat.pow 2 n

/-- A power of ten. -/
def powerOfTen (n : Nat) : Nat := Nat.pow 10 n

/-- The absolute value of a finite binary64 number: `mantissa · 2 ^ exponent`. -/
structure Magnitude where
  mantissa : Nat
  exponent : Int
  deriving DecidableEq, Repr, Inhabited

namespace Magnitude

/-- The exponent of the smallest values. -/
def leastExponent : Int := -1074

/-- The exponent of the largest values. -/
def greatestExponent : Int := 971

/-- The least mantissa above the least exponent. -/
def leastNormal : Nat := 4503599627370496

/-- Nothing at all. -/
def zero : Magnitude := ⟨0, leastExponent⟩

/-- The quotient rounded to the nearest integer, ties to even. -/
def roundDiv (num den : Nat) : Nat :=
  let q := num / den
  let r := num % den
  if den < 2 * r || (2 * r == den && q % 2 == 1) then q + 1 else q

/-- The integer part of the base-2 logarithm of `num / den`. -/
def log2Ratio (num den : Nat) : Int :=
  let guess : Int := (num.log2 : Int) - den.log2
  let reached := if 0 ≤ guess then den * powerOfTwo guess.toNat ≤ num
    else den ≤ num * powerOfTwo (-guess).toNat
  if reached then guess else guess - 1

/-- The binary64 magnitude nearest to `num / den`; none past the largest one. -/
def ofRatio? (num den : Nat) : Option Magnitude :=
  if num = 0 then some zero
  else
    let e := max leastExponent (log2Ratio num den - 52)
    let m := if 0 ≤ e then roundDiv num (den * powerOfTwo e.toNat)
      else roundDiv (num * powerOfTwo (-e).toNat) den
    let rounded : Magnitude := if m = 2 * leastNormal then ⟨leastNormal, e + 1⟩ else ⟨m, e⟩
    if greatestExponent < rounded.exponent then none else some rounded

/-- The magnitude nearest to `num / den · 2 ^ e`. -/
def ofScaledRatio? (num den : Nat) (e : Int) : Option Magnitude :=
  if 0 ≤ e then ofRatio? (num * powerOfTwo e.toNat) den
  else ofRatio? num (den * powerOfTwo (-e).toNat)

/-- The rounded product. -/
def mul? (a b : Magnitude) : Option Magnitude :=
  ofScaledRatio? (a.mantissa * b.mantissa) 1 (a.exponent + b.exponent)

/-- The rounded quotient. -/
def div? (a b : Magnitude) : Option Magnitude :=
  ofScaledRatio? a.mantissa b.mantissa (a.exponent - b.exponent)

/-- The largest exponent for which a power of ten is a binary64 value. -/
def greatestTenPower : Nat := 308

/-- The magnitude nearest to a power of ten. -/
def tenPower? (k : Nat) : Option Magnitude :=
  ofRatio? (powerOfTen k) 1

/-- The value scaled by `10 ^ k` in one step, for a power of ten that is a binary64 value. -/
def scaleOnce? (m : Magnitude) (k : Int) : Option Magnitude := do
  let power ← tenPower? k.natAbs
  if 0 ≤ k then mul? m power else div? m power

/-- The value scaled by `10 ^ k`; none past the largest magnitude. Scaling down by more than the
largest power of ten goes in steps of that power, and two of them leave nothing of a 64-bit integer,
so three steps are never used up. -/
def scale? : (steps : Nat) → (m : Magnitude) → (k : Int) → Option Magnitude
  | 0, _, _ => some zero
  | steps + 1, m, k =>
    if k.natAbs ≤ greatestTenPower then scaleOnce? m k
    else if m.mantissa = 0 then some m
    else if 0 ≤ k then none
    else do
      let smaller ← scaleOnce? m (-greatestTenPower)
      scale? steps smaller (k + greatestTenPower)

end Magnitude

/-- A finite binary64 number. -/
structure Binary64 where
  negative : Bool
  magnitude : Magnitude
  deriving DecidableEq, Repr, Inhabited

namespace Binary64

/-- The number `± significand · 10 ^ exponent`, rounded as an integer and again after scaling; none
past the largest magnitude. -/
def ofDecimal? (negative : Bool) (significand : Nat) (exponent : Int) : Option Binary64 := do
  let whole ← Magnitude.ofRatio? significand 1
  let scaled ← Magnitude.scale? 3 whole exponent
  return ⟨negative, scaled⟩

end Binary64

end WordServer.Json
