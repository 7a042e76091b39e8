import Calculator.Decimal.Basic

/-!
# Binary fractions and the reals that round to them

A finite positive number of the `binary64` format is a natural significand times a power of two.
The reals that round to it form an interval around it, and a decimal fraction reads back as that
number exactly if it lies in this interval.
-/

namespace Calculator

/-- A positive number of the `binary64` format. -/
structure Binary where
  /-- How many units there are. -/
  significand : Nat
  /-- The unit is two to this power. -/
  exponent : Int
  /-- The next smaller number is only half a unit away. -/
  narrowBelow : Bool
  deriving DecidableEq

namespace Binary

/-- The number of a bit pattern without its sign: eleven bits of exponent above fifty-two bits of
significand. The pattern must be neither that of an infinity nor of no number. -/
def ofBits (bits : Nat) : Binary :=
  let scale : Nat := bits / Nat.pow 2 52
  let fraction : Nat := bits % Nat.pow 2 52
  if scale = 0 then ⟨fraction, -1074, false⟩
  else ⟨Nat.pow 2 52 + fraction, Int.ofNat scale - 1075, fraction == 0 && 1 < scale⟩

/-- The number itself as a ratio. -/
def ratio (b : Binary) : Ratio :=
  .scaled b.significand 2 b.exponent

/-- The lower end of the interval that rounds to the number: half a unit below it, or a quarter
where the next smaller number is nearer. -/
def lower (b : Binary) : Ratio :=
  .scaled (4 * b.significand - if b.narrowBelow then 1 else 2) 2 (b.exponent - 2)

/-- The upper end of the interval that rounds to the number: half a unit above it. -/
def upper (b : Binary) : Ratio :=
  .scaled (4 * b.significand + 2) 2 (b.exponent - 2)

/-- A decimal fraction reads back as the number if it lies between the ends of the interval. An
end belongs to the interval if the significand is even, since ties round to even. -/
def readsBack (b : Binary) (d : Decimal) : Bool :=
  let fits := fun order : Ordering => order == .lt || b.significand % 2 == 0 && order == .eq
  fits (b.lower.compare d.ratio) && fits (d.ratio.compare b.upper)

/-- The number as a decimal fraction, exactly: every power of two divides a power of ten. -/
def exact (b : Binary) : Decimal :=
  ⟨b.significand * Nat.pow 2 b.exponent.toNat * Nat.pow 5 (-b.exponent).toNat, min b.exponent 0⟩

end Binary

end Calculator
