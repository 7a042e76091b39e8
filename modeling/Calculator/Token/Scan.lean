import Calculator.Text.Blank
import Calculator.Token.Lexical

/-!
# Scanning a text

Blanks are removed first, so a number may be written with blanks inside. The rest is cut from left
to right into pieces: the longest token where one starts, else a single character that is dropped.
-/

namespace Calculator

namespace Lexical

/-- Cuts off the digits in front, together with a point behind them if more digits follow it. -/
def cutLiteral (cs : List Char) : List Char × List Char :=
  let whole := cs.takeWhile Char.isDigit
  match cs.dropWhile Char.isDigit with
  | '.' :: rest =>
    let fraction := rest.takeWhile Char.isDigit
    if fraction.isEmpty then (whole, '.' :: rest)
    else (whole ++ '.' :: fraction, rest.dropWhile Char.isDigit)
  | rest => (whole, rest)

/-- Cuts off the letters and digits in front. -/
def cutWord (cs : List Char) : List Char × List Char :=
  (cs.takeWhile Char.isAlphanum, cs.dropWhile Char.isAlphanum)

/-- The longest token at the front of the characters `c :: cs`, and what follows it. -/
def lexeme? (c : Char) (cs : List Char) : Option (Token × List Char) :=
  if c.isDigit then
    let (literal, rest) := cutLiteral (c :: cs)
    some (.number (String.ofList literal), rest)
  else if c.isAlpha then
    let (word, rest) := cutWord (c :: cs)
    some (.ofWord (String.ofList word), rest)
  else (Token.ofSymbol? c).map fun token => (token, cs)

/-- Cutting off a literal loses nothing. -/
theorem cutLiteral_append (cs : List Char) : (cutLiteral cs).1 ++ (cutLiteral cs).2 = cs := by
  have whole := List.takeWhile_append_dropWhile (p := Char.isDigit) (l := cs)
  simp only [cutLiteral]
  split
  · rename_i rest eq
    rw [eq] at whole
    split
    · exact whole
    · have fraction := List.takeWhile_append_dropWhile (p := Char.isDigit) (l := rest)
      simpa [fraction] using whole
  · exact whole

/-- Cutting off a word loses nothing. -/
theorem cutWord_append (cs : List Char) : (cutWord cs).1 ++ (cutWord cs).2 = cs :=
  List.takeWhile_append_dropWhile

/-- The text of a lexeme and what follows it are the characters from which it was taken. -/
theorem lexeme?_append {c : Char} {cs rest : List Char} {token : Token}
    (h : lexeme? c cs = some (token, rest)) : token.text.toList ++ rest = c :: cs := by
  unfold lexeme? at h
  split at h
  · cases h
    rw [Token.text, String.toList_ofList]
    exact cutLiteral_append (c :: cs)
  · split at h
    · cases h
      rw [Token.text_ofWord, String.toList_ofList]
      exact cutWord_append (c :: cs)
    · obtain ⟨symbol, hs, eq⟩ := Option.map_eq_some_iff.mp h
      cases eq
      simp [Token.text_of_ofSymbol? hs]

/-- A lexeme takes at least one character. -/
theorem length_lexeme?_le {c : Char} {cs rest : List Char} {token : Token}
    (h : lexeme? c cs = some (token, rest)) : rest.length ≤ cs.length := by
  have drop_le : ∀ (p : Char → Bool) (xs : List Char), (xs.dropWhile p).length ≤ xs.length :=
    fun p xs => (List.dropWhile_sublist p).length_le
  unfold lexeme? at h
  split at h
  · rename_i digit
    cases h
    have first := drop_le Char.isDigit cs
    simp only [List.dropWhile_cons, digit, if_true]
    split
    · rename_i rest eq
      rw [eq, List.length_cons] at first
      have second := drop_le Char.isDigit rest
      split
      · simpa using first
      · simp only
        omega
    · exact first
  · split at h
    · rename_i letter
      cases h
      have alphanumeric : c.isAlphanum = true := by simp [Char.isAlphanum, letter]
      simpa [cutWord, alphanumeric] using drop_le Char.isAlphanum cs
    · obtain ⟨_, _, eq⟩ := Option.map_eq_some_iff.mp h
      cases eq
      exact Nat.le_refl _

end Lexical

/-- A piece of a text. -/
inductive Piece where
  | token (token : Token)
  /-- A character at which no token starts. -/
  | dropped (c : Char)
  deriving DecidableEq

namespace Piece

/-- The token of a piece that is not dropped. -/
def token? : Piece → Option Token
  | token t => some t
  | dropped _ => none

/-- The character of a piece that is dropped. -/
def dropped? : Piece → Option Char
  | token _ => none
  | dropped c => some c

/-- The text that a piece covers. -/
def text : Piece → String
  | token t => t.text
  | dropped c => String.singleton c

/-- Cuts characters into pieces. -/
def cut : List Char → List Piece
  | [] => []
  | c :: cs =>
    match h : Lexical.lexeme? c cs with
    | some (lexeme, rest) =>
      have := Lexical.length_lexeme?_le h
      .token lexeme :: cut rest
    | none => .dropped c :: cut cs
termination_by cs => cs.length
decreasing_by all_goals simp only [List.length_cons]; omega

/-- The pieces of a text without its blanks. -/
def ofText (text : String) : List Piece :=
  cut (Text.strip text)

/-- The pieces cover all characters, in order. -/
theorem flatMap_text_cut (cs : List Char) :
    (cut cs).flatMap (fun piece => piece.text.toList) = cs := by
  fun_induction cut cs with
  | case1 => rfl
  | case2 c cs lexeme rest h _ ih =>
    rw [List.flatMap_cons, ih]
    exact Lexical.lexeme?_append h
  | case3 c cs h ih =>
    rw [List.flatMap_cons, ih]
    simp [text]

end Piece

/-- The tokens of a text, in order. -/
def Token.scan (text : String) : List Token :=
  (Piece.ofText text).filterMap Piece.token?

end Calculator
