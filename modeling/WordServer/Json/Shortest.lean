import WordServer.Json.Binary64
import WordServer.Text.Decimal

/-!
# Shortest decimal text

A binary64 number is written with the fewest digits that read back as the same number, and among
those with the ones nearest to it. Every real number closer to it than to its neighbours reads back;
a midpoint does if the mantissa is even.
-/

namespace WordServer.Json

/-- `digits · 10 ^ unit`. -/
structure Decimal where
  digits : Nat
  unit : Int
  deriving DecidableEq, Repr

namespace Magnitude

/-- `value · 2 ^ e` compared with `digits · 10 ^ u`, as two natural numbers. -/
def alignedWith (value : Nat) (e : Int) (digits : Nat) (u : Int) : Nat × Nat :=
  (value * powerOfTwo e.toNat * powerOfTen (-u).toNat,
    digits * powerOfTen u.toNat * powerOfTwo (-e).toNat)

/-- Whether a decimal reads back as the magnitude. In quarters of the last place the magnitude is
`4 · mantissa`, the upper end of its interval two quarters above and the lower end two below, or one
below where the neighbour is twice as close. -/
def readsBack (m : Magnitude) (d : Decimal) : Bool :=
  let below := if m.mantissa = leastNormal && leastExponent < m.exponent then 1 else 2
  let lower := alignedWith (4 * m.mantissa - below) (m.exponent - 2) d.digits d.unit
  let upper := alignedWith (4 * m.mantissa + 2) (m.exponent - 2) d.digits d.unit
  if m.mantissa % 2 = 0 then lower.1 ≤ lower.2 && upper.2 ≤ upper.1
  else lower.1 < lower.2 && upper.2 < upper.1

/-- The decimals next to the magnitude on the grid of `10 ^ u`: the one not above it and the next,
with whether the second is nearer, a tie going to the even one. -/
def neighbours (m : Magnitude) (u : Int) : Decimal × Decimal × Bool :=
  let pair := alignedWith m.mantissa m.exponent 1 u
  let floor := pair.1 / pair.2
  let twiceRest := 2 * (pair.1 % pair.2)
  (⟨floor, u⟩, ⟨floor + 1, u⟩, pair.2 < twiceRest || (twiceRest == pair.2 && floor % 2 == 1))

/-- The nearest decimal on the grid of `10 ^ u` that reads back. -/
def onGrid? (m : Magnitude) (u : Int) : Option Decimal :=
  let (low, high, highNearer) := neighbours m u
  match readsBack m low, readsBack m high with
  | true, true => some (if highNearer then high else low)
  | true, false => some low
  | false, true => some high
  | false, false => none

/-- The exponent of the leading decimal digit of a magnitude that is not zero. That of its leading
binary digit, times the logarithm of two to five places, gives it or the one below. -/
def leadingExponent (m : Magnitude) : Int :=
  let guess := ((m.mantissa.log2 : Int) + m.exponent) * 30103 / 100000
  let pair := alignedWith m.mantissa m.exponent 1 (guess + 1)
  if pair.2 ≤ pair.1 then guess + 1 else guess

/-- The first decimal that reads back when the grid is refined digit by digit; seventeen digits
always do. -/
def shortestFrom (m : Magnitude) (u : Int) : (refinements : Nat) → Decimal
  | 0 => (neighbours m u).1
  | rest + 1 => (onGrid? m u).getD (shortestFrom m (u - 1) rest)

/-- The shortest decimal of a magnitude that is not zero. -/
def shortest (m : Magnitude) : Decimal :=
  shortestFrom m (leadingExponent m) 17

end Magnitude

/-- Where a number is written with an exponent. -/
structure FloatStyle where
  leastPlain : Int
  greatestPlain : Int

/-- Numbers are written in full from `0.00001` up to sixteen digits before the point. -/
def floatStyle : FloatStyle := ⟨-5, 15⟩

/-- The text of a number with leading digit at `10 ^ lead`. -/
def FloatStyle.write (style : FloatStyle) (digits : List Char) (lead : Int) : List Char :=
  if style.leastPlain ≤ lead && lead ≤ style.greatestPlain then
    if 0 ≤ lead then
      let whole := lead.toNat + 1
      let fraction := digits.drop whole
      digits.take whole ++ List.replicate (whole - digits.length) '0' ++ ['.'] ++
        (if fraction.isEmpty then ['0'] else fraction)
    else ['0', '.'] ++ List.replicate ((-lead).toNat - 1) '0' ++ digits
  else
    let fraction := digits.drop 1
    digits.take 1 ++ (if fraction.isEmpty then [] else '.' :: fraction) ++
      ['e', if 0 ≤ lead then '+' else '-'] ++ Text.decimal lead.natAbs

/-- The text of a number: it always shows a point or an exponent. -/
def Binary64.text (x : Binary64) : List Char :=
  let sign := if x.negative then ['-'] else []
  if x.magnitude.mantissa = 0 then sign ++ ['0', '.', '0']
  else
    let d := x.magnitude.shortest
    let digits := Text.decimal d.digits
    let lead := d.unit + digits.length - 1
    sign ++ floatStyle.write (Text.dropEndZeros digits) lead

end WordServer.Json
