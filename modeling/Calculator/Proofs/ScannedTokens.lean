import Calculator.Proofs.Literals
import Calculator.Proofs.LongestMatch
import Calculator.Proofs.Outcome

/-!
# Scanned tokens

The tokens of a text are tokens of their own texts, spelled with characters of the text that are
not blank. So every number among them is a literal, and has a value. The postfix order has no
other tokens.
-/

namespace Calculator

/-- A piece that is a token is the token of its own text. -/
theorem LongestCut.ofText?_text {cs : List Char} {pieces : List Piece} (h : LongestCut cs pieces)
    {token : Token} (hmem : .token token ∈ pieces) : Token.ofText? token.text = some token := by
  induction h with
  | nil => cases hmem
  | @token front rest first pieces longest _ ih =>
    rcases List.mem_cons.mp hmem with heq | hbehind
    · cases heq
      have hreads := longest.reads
      rwa [← Token.text_of_ofText? hreads] at hreads
    · exact ih hbehind
  | dropped _ _ ih =>
    rcases List.mem_cons.mp hmem with heq | hbehind
    · cases heq
    · exact ih hbehind

namespace Token

/-- A token of a text is one of its pieces. -/
theorem mem_scan {text : String} {token : Token} :
    token ∈ scan text ↔ .token token ∈ Piece.ofText text := by
  rw [scan, List.mem_filterMap]
  constructor
  · rintro ⟨piece, hmem, heq⟩
    cases piece with
    | token other => cases heq; exact hmem
    | dropped c => cases heq
  · intro hmem
    exact ⟨_, hmem, rfl⟩

/-- A token of a text is the token of its own text. -/
theorem ofText?_of_mem_scan {text : String} {token : Token} (h : token ∈ scan text) :
    ofText? token.text = some token :=
  (Piece.longestCut_cut (Text.strip text)).ofText?_text (mem_scan.mp h)

/-- A token of a text is spelled with characters of the text that are not blank. -/
theorem isBlank_of_mem_scan {text : String} {token : Token} (h : token ∈ scan text) {c : Char}
    (hc : c ∈ token.text.toList) : Text.isBlank c = false := by
  have hstrip : c ∈ Text.strip text := by
    rw [← Piece.flatMap_text_cut (Text.strip text)]
    exact List.mem_flatMap.mpr ⟨.token token, mem_scan.mp h, hc⟩
  exact (Text.mem_strip.mp hstrip).2

/-- A number of a text has a value. -/
theorem isSome_parse?_of_mem_scan {text literal : String} (h : .number literal ∈ scan text) :
    (Number.parse? literal).isSome = true := by
  rcases ofText?_cases (ofText?_of_mem_scan h) with ⟨hliteral, -⟩ | ⟨-, hword⟩ | ⟨c, -, hsymbol⟩
  · exact Number.isSome_parse?_literal hliteral
  · have hname := isName_ofWord (Token.number literal).text
    rw [← hword] at hname
    cases hname
  · rcases ofSymbol?_cases hsymbol with ⟨-, heq⟩ | ⟨-, heq⟩ | ⟨op, -, heq⟩ <;> cases heq

end Token

/-- The tokens of an expression in postfix order are among those of its text. -/
theorem Expression.mem_scan_of_mem_rpn {text : String} {x : Expression} (hx : ofText text = .ok x)
    {token : Token} (hmem : token ∈ x.rpn) : token ∈ Token.scan text := by
  have hperm := Postfix.perm_of_ofTokens (ofText_eq_ok_iff.mp hx).2
  exact (List.mem_filter.mp (hperm.mem_iff.mp hmem)).1

end Calculator
