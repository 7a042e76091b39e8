import Calculator.Proofs.Grouping
import Calculator.Proofs.Literals
import Calculator.Proofs.Outcome
import Calculator.Proofs.TreeErrors

/-!
# The meaning of a text

A text means the tree that it writes. Whatever brackets and blanks it is written with, scanning
it, putting it into postfix order and running the stack machine come to the value of that tree, or
to the error of the first node that fails.
-/

namespace Calculator

open Token

namespace Tree

/-- The leaves of a tree can be written: its literals are literals of the language, and its names
are words that are not reserved. -/
def WellSpelled : Tree → Prop
  | number literal => Lexical.isLiteral literal.toList = true
  | name n => Lexical.namesVariable n = true
  | call _ argument => argument.WellSpelled
  | binary _ left right => left.WellSpelled ∧ right.WellSpelled

/-- The names of the variables in a tree, from left to right. -/
def names : Tree → List String
  | number _ => []
  | name n => [n]
  | call _ argument => argument.names
  | binary _ left right => left.names ++ right.names

/-- The nodes of a tree that can be written are the tokens of their own texts. -/
theorem WellSpelled.ofText?_text {t : Tree} (h : t.WellSpelled) :
    ∀ token ∈ t.postorder, ofText? token.text = some token := by
  induction t with
  | number literal =>
    have hliteral : Lexical.isLiteral literal.toList = true := h
    simp [postorder, Token.text, ofText?, hliteral]
  | name n =>
    have hname : ofText? n = some (.name n) := Token.namesVariable_iff.mp h
    simpa [postorder, Token.text] using hname
  | call f argument ih =>
    intro token hmem
    rcases List.mem_append.mp hmem with hargument | hfunction
    · exact ih h token hargument
    · rw [List.mem_singleton.mp hfunction]
      cases f <;> decide
  | binary op left right ihl ihr =>
    intro token hmem
    rcases List.mem_append.mp hmem with hoperands | hoperator
    · rcases List.mem_append.mp hoperands with hleft | hright
      · exact ihl h.1 token hleft
      · exact ihr h.2 token hright
    · rw [List.mem_singleton.mp hoperator]
      cases op <;> decide

/-- The literals in a tree that can be written are literals of the language. -/
theorem WellSpelled.isLiteral {t : Tree} (h : t.WellSpelled) {literal : String}
    (hmem : .number literal ∈ t.postorder) : Lexical.isLiteral literal.toList = true := by
  induction t with
  | number other =>
    have heq : literal = other := by simpa [postorder] using hmem
    rw [heq]
    exact h
  | name n => simp [postorder] at hmem
  | call f argument ih => exact ih h (by simpa [postorder] using hmem)
  | binary op left right ihl ihr =>
    have hside : .number literal ∈ left.postorder ∨ .number literal ∈ right.postorder := by
      simpa [postorder] using hmem
    rcases hside with hleft | hright
    · exact ihl h.1 hleft
    · exact ihr h.2 hright

end Tree

end Calculator
