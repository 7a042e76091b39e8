import Calculator.Proofs.Recognition

/-!
# Tokens with spaces between them

The texts of tokens are written with a space between neighbours, but the scanner removes blanks
before it cuts. So the space keeps no two tokens apart: what was written is scanned into the same
tokens exactly if none of them goes on into the next one by its characters alone.
-/

namespace Calculator

namespace Lexical

/-- A literal with one more digit is a literal. -/
theorem isLiteral_append_digit {cs : List Char} (h : isLiteral cs = true) {c : Char}
    (hc : c.isDigit = true) : isLiteral (cs ++ [c]) = true := by
  have hlonger : ∀ {digits : List Char}, isDigits digits = true →
      isDigits (digits ++ [c]) = true := by
    intro digits hdigits
    rw [isDigits_iff] at hdigits ⊢
    exact ⟨by simp, List.forall_mem_append.mpr ⟨hdigits.2, by simpa using hc⟩⟩
  rw [isLiteral_iff] at h ⊢
  rcases h with hdigits | ⟨whole, fraction, rfl, hwhole, hfraction⟩
  · exact Or.inl (hlonger hdigits)
  · exact Or.inr ⟨whole, fraction ++ [c], by simp, hwhole, hlonger hfraction⟩

/-- A word with one more letter or digit is a word. -/
theorem isWord_append_alphanum {cs : List Char} (h : isWord cs = true) {c : Char}
    (hc : c.isAlphanum = true) : isWord (cs ++ [c]) = true := by
  cases cs with
  | nil => cases h
  | cons first others =>
    rw [isWord, Bool.and_eq_true] at h
    simp [isWord, h.1, hc, h.2]

end Lexical

open Lexical

namespace Token

/-- A space is left out when a text is stripped. -/
theorem strip_spaced {tokens : List Token}
    (hlexical : ∀ token ∈ tokens, ofText? token.text = some token) :
    Text.strip (spaced tokens) = spell tokens := by
  induction tokens with
  | nil => rfl
  | cons first tokens ih =>
    rw [List.forall_mem_cons] at hlexical
    have hfirst : first.text.toList.filter (fun c => !Text.isBlank c) = first.text.toList :=
      strip_of_ofText? hlexical.1
    cases tokens with
    | nil => simpa [Text.strip, spaced, spell] using hfirst
    | cons second tokens =>
      have hrest := ih hlexical.2
      have hspace : Text.isBlank ' ' = true := by decide
      simp only [Text.strip, spaced, List.map_cons] at hrest ⊢
      rw [String.intercalate_cons_cons, String.toList_append, String.toList_append,
        List.filter_append, List.filter_append, hfirst, hrest]
      simp [spell, hspace]

/-- A token that fuses with the one behind it is not the longest one there: with the first character
of the other it is a longer one. -/
theorem exists_longer_of_fuses {first second : Token} (hfirst : ofText? first.text = some first)
    (hsecond : ofText? second.text = some second) (hfuses : first.fuses second = true) :
    ∃ c cs, second.text.toList = c :: cs ∧
      (ofText? (String.ofList (first.text.toList ++ [c]))).isSome = true := by
  obtain ⟨c, cs, hchars, hdigit, hletter, -⟩ := exists_first_char hsecond
  refine ⟨c, cs, hchars, ?_⟩
  simp only [fuses, ← hdigit, ← hletter, Bool.or_eq_true, Bool.and_eq_true] at hfuses
  rcases ofText?_cases hfirst with ⟨hliteral, htoken⟩ | ⟨hword, htoken⟩ | ⟨symbol, -, hsymbol⟩
  · have hnext : c.isDigit = true := by
      rw [htoken] at hfuses
      simpa [isName, isNumber] using hfuses
    rw [ofText?_literal (isLiteral_append_digit hliteral hnext), Option.isSome_some]
  · have hnext : c.isAlphanum = true := by
      rw [Char.isAlphanum, Bool.or_eq_true]
      rcases hfuses with ⟨-, hname⟩ | ⟨-, hnumber⟩
      · exact hname
      · exact Or.inr hnumber
    rw [ofText?_word (isWord_append_alphanum hword hnext), Option.isSome_some]
  · rcases ofSymbol?_cases hsymbol with ⟨-, rfl⟩ | ⟨-, rfl⟩ | ⟨op, -, rfl⟩ <;>
      simp [isName, isNumber] at hfuses

end Token

open Token

namespace Piece

/-- What pieces cover is spelled by the tokens among them, and one character for each other. -/
theorem length_flatMap_text (pieces : List Piece) :
    (pieces.flatMap fun piece => piece.text.toList).length =
      (spell (pieces.filterMap token?)).length + (pieces.filterMap dropped?).length := by
  induction pieces with
  | nil => rfl
  | cons piece pieces ih =>
    rw [List.flatMap_cons, List.length_append, ih]
    cases piece with
    | token t =>
      simp only [text, spell, token?, dropped?, List.filterMap_cons, List.flatMap_cons,
        List.length_append]
      omega
    | dropped c =>
      simp only [text, token?, dropped?, List.filterMap_cons, String.toList_singleton,
        List.length_cons, List.length_nil]
      omega

/-- Where nothing is dropped, all pieces are tokens. -/
theorem eq_map_token {pieces : List Piece} (h : pieces.filterMap dropped? = []) :
    pieces = (pieces.filterMap token?).map .token := by
  induction pieces with
  | nil => rfl
  | cons piece pieces ih =>
    cases piece with
    | token t => exact congrArg (List.cons (.token t)) (ih h)
    | dropped c => cases h

/-- If tokens are found again in what they spell, nothing of it is dropped. -/
theorem cut_spell_of_filterMap {tokens : List Token}
    (h : (cut (spell tokens)).filterMap token? = tokens) :
    cut (spell tokens) = tokens.map .token := by
  have hlength := length_flatMap_text (cut (spell tokens))
  rw [flatMap_text_cut, h] at hlength
  have hdropped : (cut (spell tokens)).filterMap dropped? = [] :=
    List.length_eq_zero_iff.mp (by omega)
  conv_lhs => rw [eq_map_token hdropped, h]

end Piece

/-- A first piece that is a token is the longest one, and the others cut what is behind it. -/
theorem LongestCut.of_cons_token {token : Token} {rest : List Char} {pieces : List Piece}
    (h : LongestCut (token.text.toList ++ rest) (.token token :: pieces)) :
    LongestToken (token.text.toList ++ rest) token.text.toList token ∧ LongestCut rest pieces := by
  generalize hcs : token.text.toList ++ rest = cs at h
  cases h with
  | @token front behind _ _ longest others =>
    have htext := text_of_ofText? longest.reads
    rw [htext, String.toList_ofList, List.append_cancel_left_eq] at hcs
    rw [htext, String.toList_ofList]
    exact ⟨longest, hcs ▸ others⟩

/-- Tokens that are found again in what they spell do not fuse: the first of two that do would not
be the longest one there. -/
theorem LongestCut.isChain_fuses {tokens : List Token}
    (hlexical : ∀ token ∈ tokens, ofText? token.text = some token)
    (h : LongestCut (spell tokens) (tokens.map .token)) :
    tokens.IsChain fun first second => first.fuses second = false := by
  induction tokens with
  | nil => exact .nil
  | cons first tokens ih =>
    rw [List.forall_mem_cons] at hlexical
    rw [spell, List.flatMap_cons, List.map_cons] at h
    obtain ⟨hlongest, hbehind⟩ := h.of_cons_token
    have hchain := ih hlexical.2 hbehind
    cases tokens with
    | nil => exact .singleton first
    | cons second tokens =>
      refine List.isChain_cons_cons.mpr ⟨?_, hchain⟩
      rw [← Bool.not_eq_true]
      intro hfuses
      obtain ⟨c, cs, hchars, hlonger⟩ := exists_longer_of_fuses hlexical.1
        (hlexical.2 second (List.mem_cons_self ..)) hfuses
      have hstands : first.text.toList ++ [c] <+:
          first.text.toList ++ (second :: tokens).flatMap fun token => token.text.toList :=
        ⟨cs ++ spell tokens, by simp [spell, hchars]⟩
      have hle := hlongest.longest _ hstands hlonger
      rw [List.length_append, List.length_singleton] at hle
      omega

/-- Tokens that are written with spaces between them are scanned again as they were exactly if no
two neighbours fuse: no word stands directly in front of a word or a number, and no number directly
in front of a number. In an expression this is so. -/
theorem scan_spaced :
    (∀ tokens : List Token, (∀ token ∈ tokens, ofText? token.text = some token) →
      (Token.scan (spaced tokens) = tokens ↔
        tokens.IsChain fun first second => first.fuses second = false)) ∧
    ∀ text, Grammatical (Token.scan text) →
      Token.scan (spaced (Token.scan text)) = Token.scan text := by
  have hspaced : ∀ tokens : List Token, (∀ token ∈ tokens, ofText? token.text = some token) →
      (Token.scan (spaced tokens) = tokens ↔
        tokens.IsChain fun first second => first.fuses second = false) := by
    intro tokens hlexical
    have hstrip := strip_spaced hlexical
    constructor
    · intro hscan
      rw [Token.scan, Piece.ofText, hstrip] at hscan
      have hcut := Piece.longestCut_cut (spell tokens)
      rw [Piece.cut_spell_of_filterMap hscan] at hcut
      exact hcut.isChain_fuses hlexical
    · exact scan_of_strip hstrip hlexical
  refine ⟨hspaced, ?_⟩
  intro text hgrammatical
  exact (hspaced _ fun token => ofText?_of_mem_scan).mpr hgrammatical.isChain_fuses

/-- A number goes on into no word, so what is no expression may be found again too. A name goes on
into a number. -/
theorem scan_spaced_of_quotient :
    let apart : List Token :=
      [.number "2", .name "x", .closing, .operator .mul, .function .sin, .opening]
    let joined : List Token := [.name "a", .number "1"]
    let text := "sq rt(1 0) / x"
    Token.scan (spaced apart) = apart ∧ Token.scan (spaced joined) ≠ joined ∧
      Grammatical (Token.scan text) ∧
        Token.scan (spaced (Token.scan text)) = Token.scan text := by
  intro apart joined text
  obtain ⟨hspaced, hexpression⟩ := scan_spaced
  have hgrammatical : Grammatical (Token.scan text) := by
    have hscan : Token.scan text =
        [.function .sqrt, .opening, .number "10", .closing] ++ .operator .div :: [.name "x"] := by
      decide +kernel
    rw [hscan]
    exact .binary .div (.call .sqrt (.number "10")) (.name "x")
  have hapart : Token.scan (spaced apart) = apart :=
    (hspaced apart (by decide)).mpr (by decide)
  have hjoined : Token.scan (spaced joined) ≠ joined := by
    rw [ne_eq, hspaced joined (by decide)]
    decide
  exact ⟨hapart, hjoined, hgrammatical, hexpression text hgrammatical⟩

end Calculator
