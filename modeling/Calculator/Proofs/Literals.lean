import Calculator.Proofs.Spelling
import Calculator.StackMachine

/-!
# The numbers of literals

Every literal that the scanner can cut out of a text is a numeral, so evaluating it never fails.
-/

namespace Calculator

open Lexical

/-- A literal has no sign. -/
theorem Numeral.takeSign_literal {cs : List Char} (h : isLiteral cs = true) :
    takeSign cs = (false, cs) := by
  obtain ⟨first, others, rfl, hdigit⟩ := exists_digit_of_isLiteral h
  unfold takeSign
  split
  · rename_i hsign
    cases hsign
    exact absurd hdigit (by decide)
  · rename_i hsign
    cases hsign
    exact absurd hdigit (by decide)
  · rfl

/-- A literal is a decimal fraction without an exponent. -/
theorem Numeral.isSome_decimal?_literal {cs : List Char} (h : isLiteral cs = true) :
    (decimal? cs).isSome = true := by
  rcases isLiteral_iff.mp h with hdigits | ⟨whole, fraction, rfl, hwhole, hfraction⟩
  · obtain ⟨hne, hall⟩ := isDigits_iff.mp hdigits
    simp [decimal?, List.takeWhile_eq_self_iff.mpr hall, List.dropWhile_eq_nil_iff.mpr hall, hne,
      exponent?]
  · obtain ⟨hne, hall⟩ := isDigits_iff.mp hwhole
    obtain ⟨-, hfractions⟩ := isDigits_iff.mp hfraction
    have hstop : ∀ c ∈ ('.' :: fraction).head?, c.isDigit = false := by simp
    simp [decimal?, takeWhile_append_stop hall hstop, dropWhile_append_stop hall hstop,
      List.dropWhile_eq_nil_iff.mpr hfractions, hne, exponent?]

/-- A literal has a value. -/
theorem Number.isSome_parse?_literal {text : String} (h : isLiteral text.toList = true) :
    (parse? text).isSome = true := by
  have hdecimal := Numeral.isSome_decimal?_literal h
  simp only [parse?, Numeral.takeSign_literal h, Option.isSome_map, Numeral.unsigned?]
  split
  · rfl
  · rfl
  · rfl
  · simpa using hdecimal

end Calculator
