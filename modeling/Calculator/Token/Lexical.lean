import Calculator.Token.Basic

/-!
# Lexical classes

A text is the text of at most one token. Number literals are digits with an optional fraction,
and a point needs digits on both sides. Words start with a letter and continue with letters and
digits; those that name a built-in function are reserved, all others name variables. Letters and
digits are the ASCII ones.
-/

namespace Calculator

namespace Lexical

/-- At least one digit and nothing else. -/
def isDigits (cs : List Char) : Bool :=
  !cs.isEmpty && cs.all Char.isDigit

/-- Digits, or digits on both sides of the first point. -/
def isLiteral (cs : List Char) : Bool :=
  match cs.dropWhile fun c => c != '.' with
  | [] => isDigits cs
  | _ :: fraction => isDigits (cs.takeWhile fun c => c != '.') && isDigits fraction

/-- A letter followed by letters and digits. -/
def isWord : List Char → Bool
  | [] => false
  | c :: cs => c.isAlpha && cs.all Char.isAlphanum

/-- Whether a text can name a variable: it is a word that is not reserved. -/
def namesVariable (text : String) : Bool :=
  isWord text.toList && (Builtin.ofName? text).isNone

end Lexical

namespace Token

/-- The token that a word stands for: a built-in function or else a variable. -/
def ofWord (word : String) : Token :=
  match Builtin.ofName? word with
  | some f => function f
  | none => name word

/-- The token that a single character stands for by itself. -/
def ofSymbol? (c : Char) : Option Token :=
  if c = '(' then some opening
  else if c = ')' then some closing
  else (Operator.ofSymbol? c).map operator

/-- The token whose text is the whole of a given text. -/
def ofText? (text : String) : Option Token :=
  if Lexical.isLiteral text.toList then some (number text)
  else if Lexical.isWord text.toList then some (ofWord text)
  else match text.toList with
    | [c] => ofSymbol? c
    | _ => none

/-- The token of a word is written as that word. -/
@[simp]
theorem text_ofWord (word : String) : (ofWord word).text = word := by
  unfold ofWord
  split
  · rename_i f h
    exact (Builtin.ofName?_eq_some_iff.mp h).symm
  · rfl

/-- The token of a character is written with that character. -/
theorem text_of_ofSymbol? {c : Char} {t : Token} (h : ofSymbol? c = some t) :
    t.text = String.singleton c := by
  unfold ofSymbol? at h
  split at h
  · rename_i eq
    cases h
    rw [eq]
    rfl
  · split at h
    · rename_i eq
      cases h
      rw [eq]
      rfl
    · obtain ⟨op, hop, eq⟩ := Option.map_eq_some_iff.mp h
      cases eq
      rw [Operator.ofSymbol?_eq_some_iff.mp hop]
      rfl

/-- The token of a text is written as that text. -/
theorem text_of_ofText? {text : String} {t : Token} (h : ofText? text = some t) :
    t.text = text := by
  unfold ofText? at h
  split at h
  · cases h
    rfl
  · split at h
    · cases h
      exact text_ofWord text
    · split at h
      · rename_i c eq
        rw [text_of_ofSymbol? h, ← String.ofList_toList (s := text), eq]
        rfl
      · cases h

end Token

end Calculator
