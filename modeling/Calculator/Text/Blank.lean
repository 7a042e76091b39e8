import Calculator.Text.Ranges

/-!
# Blank characters

Blanks separate nothing in an expression: they may stand anywhere, even inside a number. A line
of a script, an answer to a prompt and both sides of a binding are trimmed of them.
-/

namespace Calculator.Text

/-- The ranges of code points, ends included, with the Unicode property White_Space. -/
def blankRanges : List (Nat × Nat) :=
  [(0x09, 0x0D), (0x20, 0x20), (0x85, 0x85), (0xA0, 0xA0), (0x1680, 0x1680), (0x2000, 0x200A),
   (0x2028, 0x2029), (0x202F, 0x202F), (0x205F, 0x205F), (0x3000, 0x3000)]

/-- A character is blank if its code point lies in one of the blank ranges. -/
def isBlank (c : Char) : Bool :=
  liesIn blankRanges c

/-- The characters of a text that are not blank, in order. -/
def strip (text : String) : List Char :=
  text.toList.filter fun c => !isBlank c

/-- A sequence of characters without the blanks at its two ends. -/
def trimChars (cs : List Char) : List Char :=
  ((cs.dropWhile isBlank).reverse.dropWhile isBlank).reverse

/-- A text without the blanks at its two ends. -/
def trim (text : String) : String :=
  String.ofList (trimChars text.toList)

/-- Stripping keeps exactly the characters that are not blank. -/
theorem mem_strip {text : String} {c : Char} :
    c ∈ strip text ↔ c ∈ text.toList ∧ isBlank c = false := by
  simp [strip]

end Calculator.Text
