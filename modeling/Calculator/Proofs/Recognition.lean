import Calculator.Proofs.ScannedTokens

/-!
# Recognizing a text as a whole

A text may be asked as a whole which token it is, or be scanned from left to right. The two do not
know of each other: the scanner removes blanks first and cuts off what fits, and the question about
the whole text looks at its first point and at the kinds of its characters. They have the same
answer: a text is a token exactly if the scanner finds this token in it, and covers all of it.
-/

namespace Calculator

open Lexical

/-- Letters and digits are not blank. -/
theorem Text.isBlank_of_isAlphanum {c : Char} (h : c.isAlphanum = true) : isBlank c = false := by
  rw [Char.isAlphanum, Bool.or_eq_true, isAlpha_iff, Char.isDigit_iff_toNat] at h
  have hzero : '0'.toNat = 48 := rfl
  have hnine : '9'.toNat = 57 := rfl
  simp only [isBlank, liesIn, blankRanges, List.any_cons, List.any_nil, Bool.or_false,
    Bool.or_eq_false_iff, Bool.and_eq_false_iff, decide_eq_false_iff_not]
  omega

namespace Token

/-- A token that stands for a single character is not written with a blank. -/
theorem isBlank_of_ofSymbol? {c : Char} {token : Token} (h : ofSymbol? c = some token) :
    Text.isBlank c = false := by
  rcases ofSymbol?_cases h with ⟨rfl, -⟩ | ⟨rfl, -⟩ | ⟨op, rfl, -⟩
  · decide
  · decide
  · cases op <;> decide

/-- There are no blanks in the text of a token. -/
theorem isBlank_of_ofText? {text : String} {token : Token} (h : ofText? text = some token)
    {c : Char} (hc : c ∈ text.toList) : Text.isBlank c = false := by
  rcases ofText?_cases h with ⟨hliteral, -⟩ | ⟨hword, -⟩ | ⟨symbol, htext, hsymbol⟩
  · have hpart : ∀ {digits : List Char}, isDigits digits = true → c ∈ digits →
        Text.isBlank c = false := by
      intro digits hdigits hmem
      have hdigit := (isDigits_iff.mp hdigits).2 c hmem
      exact Text.isBlank_of_isAlphanum (by simp [Char.isAlphanum, hdigit])
    rcases isLiteral_iff.mp hliteral with hdigits | ⟨whole, fraction, hsplit, hwhole, hfraction⟩
    · exact hpart hdigits hc
    · rw [hsplit, List.mem_append, List.mem_cons] at hc
      rcases hc with hmem | rfl | hmem
      · exact hpart hwhole hmem
      · decide
      · exact hpart hfraction hmem
  · exact Text.isBlank_of_isAlphanum (isAlphanum_of_isWord hword c hc)
  · rw [htext, List.mem_singleton] at hc
    rw [hc]
    exact isBlank_of_ofSymbol? hsymbol

/-- Stripping leaves the text of a token as it is. -/
theorem strip_of_ofText? {text : String} {token : Token} (h : ofText? text = some token) :
    Text.strip text = text.toList := by
  rw [Text.strip, List.filter_eq_self]
  intro c hc
  rw [isBlank_of_ofText? h hc, Bool.not_false]

/-- The text of a token is scanned into this token. -/
theorem scan_of_ofText? {text : String} {token : Token} (h : ofText? text = some token) :
    scan text = [token] := by
  have htext := text_of_ofText? h
  apply scan_of_strip
  · rw [strip_of_ofText? h, spell, List.flatMap_singleton, htext]
  · intro other hmem
    rw [List.mem_singleton.mp hmem, htext, h]
  · exact .singleton token

/-- A text is a token exactly if it is scanned into this token and nothing of it is left out. -/
theorem ofText?_eq_some_iff {text : String} {token : Token} :
    ofText? text = some token ↔ scan text = [token] ∧ token.text = text := by
  constructor
  · intro h
    exact ⟨scan_of_ofText? h, text_of_ofText? h⟩
  · rintro ⟨hscan, htext⟩
    rw [← htext]
    exact ofText?_of_mem_scan (by rw [hscan]; exact List.mem_singleton_self token)

/-- The recognizer and the scanner agree on every text: it is a token exactly if it is scanned into
this token alone, with no blank and no dropped character besides. It can name a variable exactly if
it is scanned into the variable of that name. So each token that is scanned is the token of its own
text. -/
theorem recognizer_agrees_with_scanner (text : String) :
    (∀ token, ofText? text = some token ↔ scan text = [token] ∧ token.text = text) ∧
      (namesVariable text = true ↔ scan text = [.name text]) ∧
      ∀ token ∈ scan text, ofText? token.text = some token := by
  refine ⟨fun token => ofText?_eq_some_iff, ?_, fun token => ofText?_of_mem_scan⟩
  rw [namesVariable_iff, ofText?_eq_some_iff]
  exact and_iff_left rfl

/-- Two points, blanks and a name that goes on behind that of a function: the text is no token, and
those that are scanned in it are tokens by themselves. -/
theorem recognizer_agrees_on_two_points :
    let text := "3. 14.15 sin2"
    let tokens := [.number "3.14", .number "15", .name "sin2"]
    scan text = tokens ∧ ofText? text = none ∧ namesVariable text = false ∧
      .name "sin2" ∈ scan text ∧ ofText? (Token.name "sin2").text = some (.name "sin2") := by
  intro text tokens
  have hscan : scan text = tokens := by decide +kernel
  obtain ⟨hwhole, hname, htokens⟩ := recognizer_agrees_with_scanner text
  have hmem : .name "sin2" ∈ scan text := by
    rw [hscan]
    decide
  refine ⟨hscan, ?_, ?_, hmem, htokens _ hmem⟩
  · rw [Option.eq_none_iff_forall_ne_some]
    intro token htoken
    have hsingle := congrArg List.length ((hwhole token).mp htoken).1
    rw [hscan] at hsingle
    exact absurd hsingle (by simp [tokens])
  · rw [← Bool.not_eq_true, hname, hscan]
    decide

end Token

end Calculator
