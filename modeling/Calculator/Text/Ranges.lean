/-!
# Ranges of characters

A property of characters is given by the ranges of the code points that have it.
-/

namespace Calculator.Text

/-- Whether the code point of a character lies in one of some ranges, ends included. -/
def liesIn (ranges : List (Nat × Nat)) (c : Char) : Bool :=
  ranges.any fun range => range.1 ≤ c.toNat && c.toNat ≤ range.2

end Calculator.Text
