import Calculator.Proofs.LongestMatch

/-!
# Separators

A character that is neither a letter nor a digit nor a point stands in no token but its own. So no
token reaches across it, and the scanner cuts what is in front of it and what is behind it as if
each were a text by itself.
-/

namespace Calculator

open Token

/-- A character, not a blank, that no token goes across. -/
structure Lexical.Separates (c : Char) : Prop where
  visible : Text.isBlank c = false
  not_alphanum : c.isAlphanum = false
  ne_point : c ≠ '.'

/-- The operator or the bracket that is written with a character, if there is one. -/
def Token.writtenAs (c : Char) : List Token :=
  [.operator .add, .operator .sub, .operator .mul, .operator .div, .opening, .closing].filter
    fun token => token.text == String.singleton c

/-- The piece that a separator is by itself. -/
def Piece.ofSeparator (c : Char) : Piece :=
  match ofSymbol? c with
  | some t => .token t
  | none => .dropped c

/-- What lacks an element stands in front of it, if it stands in front of a sequence with it. -/
theorem Lexical.prefix_of_not_mem {α : Type} {front xs ys : List α} {x : α} (hx : x ∉ front)
    (h : front <+: xs ++ x :: ys) : front <+: xs := by
  by_cases hle : front.length ≤ xs.length
  · exact List.prefix_of_prefix_length_le h (List.prefix_append ..) hle
  · have hsplit : xs ++ [x] <+: xs ++ x :: ys := ⟨ys, by simp⟩
    have hlonger : (xs ++ [x]).length ≤ front.length := by
      rw [List.length_append, List.length_singleton]
      omega
    have hfront : xs ++ [x] <+: front := List.prefix_of_prefix_length_le hsplit h hlonger
    exact absurd (hfront.subset (by simp)) hx

namespace Lexical.Separates

variable {c : Char} (hc : Separates c)

include hc

/-- A separator is neither a digit nor a letter. -/
theorem isDigit_or_isAlpha : c.isDigit = false ∧ c.isAlpha = false := by
  have hneither := hc.not_alphanum
  rw [Char.isAlphanum, Bool.or_eq_false_iff] at hneither
  exact hneither.symm

/-- A token in which a separator stands is written with nothing else. -/
theorem eq_singleton_of_mem {front : List Char} {token : Token}
    (hreads : ofText? (String.ofList front) = some token) (hmem : c ∈ front) : front = [c] := by
  obtain ⟨hdigit, -⟩ := hc.isDigit_or_isAlpha
  have hcases := ofText?_cases hreads
  rw [String.toList_ofList] at hcases
  rcases hcases with ⟨hliteral, -⟩ | ⟨hword, -⟩ | ⟨d, rfl, -⟩
  · have hnone : ∀ {digits : List Char}, isDigits digits = true → c ∉ digits := by
      intro digits hdigits hc
      rw [(isDigits_iff.mp hdigits).2 c hc] at hdigit
      cases hdigit
    rcases isLiteral_iff.mp hliteral with hdigits | ⟨whole, fraction, rfl, hwhole, hfraction⟩
    · exact absurd hmem (hnone hdigits)
    · rcases List.mem_append.mp hmem with hleft | hright
      · exact absurd hleft (hnone hwhole)
      · rcases List.mem_cons.mp hright with hpoint | hbehind
        · exact absurd hpoint hc.ne_point
        · exact absurd hbehind (hnone hfraction)
  · have halphanum := isAlphanum_of_isWord hword c hmem
    rw [hc.not_alphanum] at halphanum
    cases halphanum
  · rw [List.mem_singleton.mp hmem]

/-- A token that starts in front of a separator ends there. -/
theorem prefix_of_ofText? {xs ys front : List Char} {token : Token} (hne : xs ≠ [])
    (hstands : front <+: xs ++ c :: ys) (hreads : ofText? (String.ofList front) = some token) :
    front <+: xs := by
  by_cases hmem : c ∈ front
  · have hfront := hc.eq_singleton_of_mem hreads hmem
    obtain ⟨first, others, rfl⟩ := List.exists_cons_of_ne_nil hne
    rw [hfront, List.cons_append, List.cons_prefix_cons] at hstands
    rw [hfront, hstands.1]
    exact ⟨others, rfl⟩
  · exact prefix_of_not_mem hmem hstands

/-- At a separator there is the token that it stands for, or none. -/
theorem lexeme?_eq (cs : List Char) :
    lexeme? c cs = (ofSymbol? c).map fun token => (token, cs) := by
  obtain ⟨hdigit, hletter⟩ := hc.isDigit_or_isAlpha
  simp [lexeme?, hdigit, hletter]

end Lexical.Separates

open Lexical

/-- A longest token stays the longest one if a separator comes somewhere behind it. -/
theorem LongestToken.before_separator {front rest ys : List Char} {token : Token} {c : Char}
    (h : LongestToken (front ++ rest) front token) (hc : Separates c) :
    LongestToken (front ++ (rest ++ c :: ys)) front token := by
  refine ⟨List.prefix_append .., h.reads, ?_⟩
  intro other hother hsome
  obtain ⟨found, hreads⟩ := Option.isSome_iff_exists.mp hsome
  rw [← List.append_assoc] at hother
  have hne : front ++ rest ≠ [] := List.append_ne_nil_of_left_ne_nil h.ne_nil rest
  exact h.longest other (hc.prefix_of_ofText? hne hother hreads) hsome

/-- A separator in front is a piece by itself. -/
theorem LongestCut.cons_separator {ys : List Char} {others : List Piece} {c : Char}
    (hc : Separates c) (h : LongestCut ys others) :
    LongestCut (c :: ys) (Piece.ofSeparator c :: others) := by
  have hlexeme := hc.lexeme?_eq ys
  rw [Piece.ofSeparator]
  cases hsymbol : ofSymbol? c with
  | some token =>
    rw [hsymbol] at hlexeme
    have hlongest := longestToken_of_lexeme? hlexeme
    rw [text_of_ofSymbol? hsymbol, String.toList_singleton] at hlongest
    rw [← List.singleton_append] at hlongest ⊢
    exact .token hlongest h
  | none =>
    rw [hsymbol] at hlexeme
    exact .dropped (fun front hstands _ => ofText?_of_lexeme?_eq_none hlexeme hstands) h

/-- The pieces in front of a separator and those behind it are cut independently. -/
theorem LongestCut.append_separator {xs ys : List Char} {pieces others : List Piece} {c : Char}
    (h : LongestCut xs pieces) (hc : Separates c) (hothers : LongestCut ys others) :
    LongestCut (xs ++ c :: ys) (pieces ++ Piece.ofSeparator c :: others) := by
  induction h with
  | nil => exact hothers.cons_separator hc
  | token first _ ih =>
    rw [List.append_assoc]
    exact .token (first.before_separator hc) ih
  | @dropped d rest pieces hnone _ ih =>
    refine .dropped (fun front hstands hne => ?_) ih
    rw [Option.eq_none_iff_forall_ne_some]
    intro token hreads
    -- a token that started here would end in front of the separator
    have hshort := hc.prefix_of_ofText? (List.cons_ne_nil d rest) hstands hreads
    rw [hnone front hshort hne] at hreads
    cases hreads

/-- The scanner cuts both sides of a separator by themselves. -/
theorem Piece.cut_append_separator {c : Char} (hc : Separates c) (xs ys : List Char) :
    cut (xs ++ c :: ys) = cut xs ++ ofSeparator c :: cut ys :=
  (longestCut_cut _).unique ((longestCut_cut xs).append_separator hc (longestCut_cut ys))

namespace Token

/-- The token of a single character is the operator or the bracket that it writes. -/
theorem toList_ofSymbol? (c : Char) : (ofSymbol? c).toList = writtenAs c := by
  cases hsymbol : ofSymbol? c with
  | some token =>
    rcases ofSymbol?_cases hsymbol with ⟨rfl, rfl⟩ | ⟨rfl, rfl⟩ | ⟨op, rfl, rfl⟩
    · decide
    · decide
    · cases op <;> decide
  | none =>
    symm
    rw [writtenAs, Option.toList_none, List.filter_eq_nil_iff]
    intro token hmem htext
    have hc : token.text.toList = [c] := by simp [eq_of_beq htext]
    simp only [List.mem_cons, List.not_mem_nil, or_false] at hmem
    rcases hmem with rfl | rfl | rfl | rfl | rfl | rfl <;> cases hc <;> cases hsymbol

/-- The token of a separator is the operator or the bracket that it writes. -/
theorem token?_ofSeparator (c : Char) : (Piece.ofSeparator c).token?.toList = writtenAs c := by
  rw [← toList_ofSymbol?, Piece.ofSeparator]
  cases ofSymbol? c <;> rfl

end Token

/-- Scanning is local to separators: behind any text and in front of any other one, with blanks
wherever they may be, a separator gives the operator or the bracket that it writes, or nothing, and
each of the texts gives its own tokens. So one separator that writes nothing is as good as
another. -/
theorem scan_separated {c : Char} (hc : Separates c) (before behind : String) :
    Token.scan (before ++ String.singleton c ++ behind) =
        Token.scan before ++ writtenAs c ++ Token.scan behind ∧
      ∀ d, Separates d → writtenAs c = [] → writtenAs d = [] →
        Token.scan (before ++ String.singleton d ++ behind) =
          Token.scan (before ++ String.singleton c ++ behind) := by
  have hscan : ∀ d, Separates d → Token.scan (before ++ String.singleton d ++ behind) =
      Token.scan before ++ writtenAs d ++ Token.scan behind := by
    intro d hd
    have hstrip : Text.strip (before ++ String.singleton d ++ behind) =
        Text.strip before ++ d :: Text.strip behind := by
      simp [Text.strip, hd.visible]
    rw [Token.scan, Piece.ofText, hstrip, Piece.cut_append_separator hd, List.filterMap_append,
      ← token?_ofSeparator, List.append_assoc]
    cases hpiece : (Piece.ofSeparator d).token? with
    | none =>
      rw [List.filterMap_cons_none hpiece]
      rfl
    | some token =>
      rw [List.filterMap_cons_some hpiece]
      rfl
  refine ⟨hscan c hc, ?_⟩
  intro d hd hwrites hothers
  rw [hscan d hd, hscan c hc, hwrites, hothers]

/-- A number that stops at its point is not continued behind an operator, and not behind a character
that is dropped either. -/
theorem scan_separated_behind_point :
    let before := "x + 1 2 ."
    let behind := " 5 .y"
    Separates '*' ∧ Separates 'é' ∧ Separates '_' ∧
      Token.scan (before ++ "*" ++ behind) =
        [.name "x", .operator .add, .number "12", .operator .mul, .number "5", .name "y"] ∧
      Token.scan (before ++ "_" ++ behind) = Token.scan (before ++ "é" ++ behind) := by
  intro before behind
  have hstar : Separates '*' := ⟨by decide, by decide, by decide⟩
  have haccent : Separates 'é' := ⟨by decide, by decide, by decide⟩
  have hline : Separates '_' := ⟨by decide, by decide, by decide⟩
  obtain ⟨hscan, -⟩ := scan_separated hstar before behind
  obtain ⟨-, hothers⟩ := scan_separated haccent before behind
  refine ⟨hstar, haccent, hline, ?_, hothers '_' hline (by decide) (by decide)⟩
  rw [show ("*" : String) = String.singleton '*' from rfl, hscan]
  decide +kernel

end Calculator
