import Calculator.Decimal.Binary

/-!
# The shortest decimal fraction of a number

Of all decimal fractions that read back as a given number, the shortest has the fewest digits, and
among those it is the nearest; of two that are equally near it is the larger.
-/

namespace Calculator.Decimal

/-- The place of the leading digit of a positive ratio: the least `k` such that the ratio lies
below `10 ^ k`. -/
def magnitude (x : Ratio) : Int :=
  if x.den ≤ x.num then (naturalText (x.num / x.den)).length
  else 1 - ((naturalText ((x.den - 1) / x.num)).length : Int)

/-- Chooses between the two neighbours of a number among the multiples of `10 ^ exponent`: the
one that reads back, or the nearer if both do. -/
def onGrid? (b : Binary) (exponent : Int) : Option Decimal :=
  let x := b.ratio
  let below := x.num * Nat.pow 10 (-exponent).toNat / (x.den * Nat.pow 10 exponent.toNat)
  let low : Decimal := ⟨below, exponent⟩
  let high : Decimal := ⟨below + 1, exponent⟩
  let middle : Decimal := ⟨10 * below + 5, exponent - 1⟩
  match b.readsBack low, b.readsBack high with
  | true, true => some (if middle.ratio.compare x == .gt then low else high)
  | true, false => some low
  | false, true => some high
  | false, false => none

/-- The shortest decimal fraction that reads back as a positive number. The grids are tried from
one digit on; seventeen digits are enough for every number. -/
def shortest (b : Binary) : Decimal :=
  let top := magnitude b.ratio
  let grids := (List.range 17).map fun n : Nat => top - 1 - Int.ofNat n
  dropZeros 17 ((grids.findSome? (onGrid? b)).getD b.exact)

end Calculator.Decimal
