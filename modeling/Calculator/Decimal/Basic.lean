/-!
# Decimal fractions

A decimal fraction is a natural number of units, each a power of ten. It is written in positional
notation, without an exponent however large or small it is. Numbers are compared exactly, as
ratios of natural numbers.
-/

namespace Calculator

/-- A ratio of two natural numbers. -/
structure Ratio where
  /-- The numerator. -/
  num : Nat
  /-- The denominator. -/
  den : Nat
  deriving DecidableEq

namespace Ratio

/-- The ratio `n * base ^ exponent`. -/
def scaled (n base : Nat) (exponent : Int) : Ratio :=
  ⟨n * base.pow exponent.toNat, base.pow (-exponent).toNat⟩

/-- The order of two ratios with positive denominators. -/
def compare (x y : Ratio) : Ordering :=
  Ord.compare (x.num * y.den) (y.num * x.den)

end Ratio

/-- The number `digits * 10 ^ exponent`. -/
structure Decimal where
  /-- How many units there are. -/
  digits : Nat
  /-- The unit is ten to this power. -/
  exponent : Int
  deriving DecidableEq

namespace Decimal

/-- A decimal fraction as a ratio. -/
def ratio (d : Decimal) : Ratio :=
  .scaled d.digits 10 d.exponent

/-- Drops up to `fuel` zeros from the end of the digits and raises the exponent instead. -/
def dropZeros : Nat → Decimal → Decimal
  | 0, d => d
  | fuel + 1, d =>
    if d.digits != 0 && d.digits % 10 == 0 then dropZeros fuel ⟨d.digits / 10, d.exponent + 1⟩
    else d

/-- The decimal digits of a natural number. -/
def naturalText (n : Nat) : List Char :=
  Nat.toDigits 10 n

/-- The positional notation of a decimal fraction: zeros fill up to the unit, and a point stands
only in front of digits below one. -/
def text (d : Decimal) : List Char :=
  let written := naturalText d.digits
  if 0 ≤ d.exponent then written ++ List.replicate d.exponent.toNat '0'
  else
    let places := (-d.exponent).toNat
    if places < written.length then
      written.take (written.length - places) ++ '.' :: written.drop (written.length - places)
    else
      '0' :: '.' :: List.replicate (places - written.length) '0' ++ written

end Decimal

end Calculator
