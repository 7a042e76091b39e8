import Calculator.Decimal.Basic

/-!
# Numerals

A numeral is an optional sign in front of decimal digits with an optional point and an optional
exponent, or in front of a word for infinity or for no number. Nothing else may stand in it: no
blank, no digit separator, no other base.
-/

namespace Calculator

/-- What a numeral says apart from its sign. -/
inductive Numeral where
  | finite (value : Decimal)
  | infinite
  | undefined
  deriving DecidableEq

namespace Numeral

/-- The value of decimal digits. -/
def natural (digits : List Char) : Nat :=
  digits.foldl (fun n c => 10 * n + (c.toNat - '0'.toNat)) 0

/-- Reads a sign if one is there; the flag says whether it was a minus. -/
def takeSign : List Char → Bool × List Char
  | '-' :: cs => (true, cs)
  | '+' :: cs => (false, cs)
  | cs => (false, cs)

/-- Reads what may follow the digits: nothing, or `e` in either case, a sign if one is there, and
at least one digit. -/
def exponent? : List Char → Option Int
  | [] => some 0
  | c :: cs =>
    let (negative, digits) := takeSign cs
    if c.toLower == 'e' && !digits.isEmpty && digits.all Char.isDigit then
      some (if negative then -(natural digits : Int) else natural digits)
    else none

/-- Reads digits with an optional point among them, at least one digit in all, and an optional
exponent. -/
def decimal? (cs : List Char) : Option Decimal :=
  let whole := cs.takeWhile Char.isDigit
  let afterWhole := cs.dropWhile Char.isDigit
  let fraction := match afterWhole with
    | '.' :: rest => rest.takeWhile Char.isDigit
    | _ => []
  let afterFraction := match afterWhole with
    | '.' :: rest => rest.dropWhile Char.isDigit
    | rest => rest
  if whole.isEmpty && fraction.isEmpty then none
  else (exponent? afterFraction).map fun e =>
    ⟨natural (whole ++ fraction), e - (fraction.length : Int)⟩

/-- Reads a numeral without its sign. The words count in any letter case. -/
def unsigned? (cs : List Char) : Option Numeral :=
  match cs.map Char.toLower with
  | ['i', 'n', 'f'] => some .infinite
  | ['i', 'n', 'f', 'i', 'n', 'i', 't', 'y'] => some .infinite
  | ['n', 'a', 'n'] => some .undefined
  | _ => (decimal? cs).map .finite

end Numeral

end Calculator
