import Calculator.Decimal.Numeral
import Calculator.Decimal.Shortest

/-!
# Numbers and their texts

Numbers are those of the `binary64` format. A text is read to the nearest number, ties to even,
and a number is written with the fewest digits that read back.
-/

namespace Calculator.Number

/-- The number nearest to a decimal fraction. A fraction with its leading digit above the place
of every finite number is infinite, one far below the least positive number is zero. -/
def ofDecimal (d : Decimal) : Float :=
  let top := ((Decimal.naturalText d.digits).length : Int) + d.exponent
  if d.digits = 0 then 0.0
  else if 310 < top then 1.0 / 0.0
  else if top < -330 then 0.0
  else Float.ofScientific d.digits (d.exponent < 0) d.exponent.natAbs

/-- The number that a numeral stands for, before its sign. -/
def ofNumeral : Numeral → Float
  | .finite d => ofDecimal d
  | .infinite => 1.0 / 0.0
  | .undefined => 0.0 / 0.0

/-- Reads a number; none if the text is not a numeral. -/
def parse? (text : String) : Option Float :=
  let (negative, cs) := Numeral.takeSign text.toList
  (Numeral.unsigned? cs).map fun n => if negative then -ofNumeral n else ofNumeral n

/-- Writes a number: a sign if it is negative, on zero too, and the shortest decimal fraction
that reads back. An infinity and no number have words. -/
def text (x : Float) : String :=
  let bits := x.toBits.toNat
  let sign := if Nat.pow 2 63 ≤ bits then "-" else ""
  let size := bits % Nat.pow 2 63
  if x.isNaN then "NaN"
  else if x.isInf then sign ++ "inf"
  else if size = 0 then sign ++ "0"
  else sign ++ String.ofList (Decimal.shortest (.ofBits size)).text

end Calculator.Number
