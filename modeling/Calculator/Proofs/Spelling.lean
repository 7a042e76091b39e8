import Calculator.Proofs.Adjacency
import Calculator.Token.Scan
import Calculator.Text.Alphabetic
import Mathlib.Data.List.TakeWhile

/-!
# Scanning what tokens spell

The texts of tokens, written one directly after the other, are cut into the same tokens again,
unless two neighbours fuse: a word takes in the letters and digits behind it, and a number the
digits behind it. In an expression no two neighbours fuse.
-/

namespace Calculator

namespace Lexical

/-- Nothing is taken beyond a part in which all elements qualify, if the next one does not. -/
theorem takeWhile_append_stop {p : Char → Bool} {body rest : List Char}
    (hbody : ∀ c ∈ body, p c = true) (hstop : ∀ c ∈ rest.head?, p c = false) :
    (body ++ rest).takeWhile p = body := by
  rw [List.takeWhile_append_of_pos hbody]
  cases rest with
  | nil => simp
  | cons c rest => simp [hstop c rfl]

/-- All that lies beyond a part in which all elements qualify is left, if the next one does not. -/
theorem dropWhile_append_stop {p : Char → Bool} {body rest : List Char}
    (hbody : ∀ c ∈ body, p c = true) (hstop : ∀ c ∈ rest.head?, p c = false) :
    (body ++ rest).dropWhile p = rest := by
  rw [List.dropWhile_append_of_pos hbody]
  cases rest with
  | nil => rfl
  | cons c rest => simp [hstop c rfl]

/-- Digits are at least one character, and all of them qualify. -/
theorem isDigits_iff {cs : List Char} :
    isDigits cs = true ↔ cs ≠ [] ∧ ∀ c ∈ cs, c.isDigit = true := by
  cases cs <;> simp [isDigits]

/-- No digit is a point. -/
theorem ne_point_of_isDigit {c : Char} (h : c.isDigit = true) : (c != '.') = true := by
  rw [bne_iff_ne]
  rintro rfl
  exact absurd h (by decide)

/-- A literal is digits, or digits on both sides of one point. -/
theorem isLiteral_iff {cs : List Char} :
    isLiteral cs = true ↔
      isDigits cs = true ∨ ∃ whole fraction,
        cs = whole ++ '.' :: fraction ∧ isDigits whole = true ∧ isDigits fraction = true := by
  constructor
  · intro h
    unfold isLiteral at h
    split at h
    · exact Or.inl h
    · rename_i point fraction hdrop
      have hpoint := List.head?_dropWhile_not (fun c : Char => c != '.') cs
      rw [hdrop] at hpoint
      have hpoint : point = '.' := by simpa using hpoint
      have hsplit := List.takeWhile_append_dropWhile (p := fun c : Char => c != '.') (l := cs)
      rw [hdrop, hpoint] at hsplit
      rw [Bool.and_eq_true] at h
      exact Or.inr ⟨_, fraction, hsplit.symm, h.1, h.2⟩
  · rintro (hdigits | ⟨whole, fraction, rfl, hwhole, hfraction⟩)
    · have hall : ∀ c ∈ cs, (c != '.') = true := fun c hc =>
        ne_point_of_isDigit ((isDigits_iff.mp hdigits).2 c hc)
      have hdrop : cs.dropWhile (fun c => c != '.') = [] := List.dropWhile_eq_nil_iff.mpr hall
      simp only [isLiteral, hdrop, hdigits]
    · have hall : ∀ c ∈ whole, (c != '.') = true := fun c hc =>
        ne_point_of_isDigit ((isDigits_iff.mp hwhole).2 c hc)
      have hstop : ∀ c ∈ ('.' :: fraction).head?, (c != '.') = false := by simp
      simp only [isLiteral, dropWhile_append_stop hall hstop, takeWhile_append_stop hall hstop,
        hwhole, hfraction, Bool.and_self]

/-- A literal starts with a digit. -/
theorem exists_digit_of_isLiteral {cs : List Char} (h : isLiteral cs = true) :
    ∃ first others, cs = first :: others ∧ first.isDigit = true := by
  rcases isLiteral_iff.mp h with hdigits | ⟨whole, fraction, rfl, hwhole, -⟩
  · obtain ⟨hne, hall⟩ := isDigits_iff.mp hdigits
    obtain ⟨first, others, rfl⟩ := List.exists_cons_of_ne_nil hne
    exact ⟨first, others, rfl, hall first (List.mem_cons_self ..)⟩
  · obtain ⟨hne, hall⟩ := isDigits_iff.mp hwhole
    obtain ⟨first, others, rfl⟩ := List.exists_cons_of_ne_nil hne
    exact ⟨first, _, rfl, hall first (List.mem_cons_self ..)⟩

/-- A word starts with a letter. -/
theorem exists_letter_of_isWord {cs : List Char} (h : isWord cs = true) :
    ∃ first others, cs = first :: others ∧ first.isAlpha = true := by
  cases cs with
  | nil => cases h
  | cons first others =>
    rw [isWord, Bool.and_eq_true] at h
    exact ⟨first, others, rfl, h.1⟩

/-- The characters behind a literal neither prolong its digits nor add a fraction to it. -/
def EndsLiteral (literal rest : List Char) : Prop :=
  (∀ c ∈ rest.head?, c.isDigit = false) ∧
    ('.' ∈ literal ∨ (rest.head? = some '.' → ∀ c ∈ rest.tail.head?, c.isDigit = false))

/-- A literal is cut off whole, and no more than it. -/
theorem cutLiteral_literal {literal rest : List Char} (h : isLiteral literal = true)
    (hends : EndsLiteral literal rest) : cutLiteral (literal ++ rest) = (literal, rest) := by
  obtain ⟨hdigit, hpoint⟩ := hends
  rcases isLiteral_iff.mp h with hdigits | ⟨whole, fraction, rfl, hwhole, hfraction⟩
  · have hall := (isDigits_iff.mp hdigits).2
    simp only [cutLiteral, takeWhile_append_stop hall hdigit, dropWhile_append_stop hall hdigit]
    split
    · rename_i behind
      have hnone : '.' ∉ literal := fun hmem => by simpa using hall '.' hmem
      have hnext := hpoint.resolve_left hnone rfl
      have hempty : behind.takeWhile Char.isDigit = [] := by
        cases behind with
        | nil => rfl
        | cons c behind => simp [hnext c rfl]
      simp [hempty]
    · rfl
  · obtain ⟨-, hwholes⟩ := isDigits_iff.mp hwhole
    obtain ⟨hne, hfractions⟩ := isDigits_iff.mp hfraction
    have hstop : ∀ c ∈ ('.' :: (fraction ++ rest)).head?, c.isDigit = false := by simp
    have hempty : fraction.isEmpty = false := by simpa using hne
    simp only [List.append_assoc, List.cons_append, cutLiteral,
      takeWhile_append_stop hwholes hstop, dropWhile_append_stop hwholes hstop,
      takeWhile_append_stop hfractions hdigit, dropWhile_append_stop hfractions hdigit, hempty]
    rfl

/-- All characters of a word are letters and digits. -/
theorem isAlphanum_of_isWord {cs : List Char} (h : isWord cs = true) :
    ∀ c ∈ cs, c.isAlphanum = true := by
  cases cs with
  | nil => cases h
  | cons first others =>
    simp only [isWord, Bool.and_eq_true, List.all_eq_true] at h
    intro c hc
    rcases List.mem_cons.mp hc with rfl | hmem
    · simp [Char.isAlphanum, h.1]
    · exact h.2 c hmem

/-- A word is cut off whole, and no more than it. -/
theorem cutWord_word {word rest : List Char} (h : isWord word = true)
    (hends : ∀ c ∈ rest.head?, c.isAlphanum = false) : cutWord (word ++ rest) = (word, rest) := by
  have hall := isAlphanum_of_isWord h
  simp only [cutWord, takeWhile_append_stop hall hends, dropWhile_append_stop hall hends]

/-- No letter is a digit. -/
theorem isDigit_of_isAlpha {c : Char} (h : c.isAlpha = true) : c.isDigit = false := by
  have hlast : '9'.toNat = 57 := rfl
  rw [Text.isAlpha_iff] at h
  rw [← Bool.not_eq_true, Char.isDigit_iff_toNat]
  omega

/-- No word is a literal. -/
theorem isLiteral_of_isWord {cs : List Char} (h : isWord cs = true) : isLiteral cs = false := by
  obtain ⟨first, others, rfl, hletter⟩ := exists_letter_of_isWord h
  rw [← Bool.not_eq_true]
  intro hliteral
  obtain ⟨digit, rest, heq, hdigit⟩ := exists_digit_of_isLiteral hliteral
  cases heq
  rw [isDigit_of_isAlpha hletter] at hdigit
  cases hdigit

end Lexical

namespace Token

open Lexical

/-- A text is that of a literal, of a word, or of a token with a single character. -/
theorem ofText?_cases {text : String} {token : Token} (h : ofText? text = some token) :
    (isLiteral text.toList = true ∧ token = .number text) ∨
      (isWord text.toList = true ∧ token = ofWord text) ∨
        ∃ c, text.toList = [c] ∧ ofSymbol? c = some token := by
  unfold ofText? at h
  split at h
  · rename_i hliteral
    cases h
    exact Or.inl ⟨hliteral, rfl⟩
  · split at h
    · rename_i hword
      cases h
      exact Or.inr (Or.inl ⟨hword, rfl⟩)
    · split at h
      · rename_i c hc
        exact Or.inr (Or.inr ⟨c, hc, h⟩)
      · cases h

/-- The tokens with a single character are the brackets and the operators. -/
theorem ofSymbol?_cases {c : Char} {token : Token} (h : ofSymbol? c = some token) :
    (c = '(' ∧ token = .opening) ∨ (c = ')' ∧ token = .closing) ∨
      ∃ op : Operator, c = op.symbol ∧ token = .operator op := by
  unfold ofSymbol? at h
  split at h
  · rename_i hc
    cases h
    exact Or.inl ⟨hc, rfl⟩
  · split at h
    · rename_i hc
      cases h
      exact Or.inr (Or.inl ⟨hc, rfl⟩)
    · obtain ⟨op, hop, rfl⟩ := Option.map_eq_some_iff.mp h
      exact Or.inr (Or.inr ⟨op, Operator.ofSymbol?_eq_some_iff.mp hop, rfl⟩)

/-- A text can name a variable exactly if it is the token of that name. -/
theorem namesVariable_iff {text : String} :
    namesVariable text = true ↔ ofText? text = some (.name text) := by
  rw [namesVariable, Bool.and_eq_true, Option.isNone_iff_eq_none]
  constructor
  · rintro ⟨hword, hfree⟩
    simp [ofText?, isLiteral_of_isWord hword, hword, ofWord, hfree]
  · intro h
    rcases ofText?_cases h with ⟨-, hnumber⟩ | ⟨hword, hname⟩ | ⟨c, -, hsymbol⟩
    · cases hnumber
    · refine ⟨hword, ?_⟩
      unfold ofWord at hname
      split at hname
      · cases hname
      · assumption
    · rcases ofSymbol?_cases hsymbol with ⟨-, hname⟩ | ⟨-, hname⟩ | ⟨op, -, hname⟩ <;> cases hname

/-- Neither brackets nor operators are letters or digits, and none is a point. -/
theorem isAlphanum_of_ofSymbol? {c : Char} {token : Token} (h : ofSymbol? c = some token) :
    c.isDigit = false ∧ c.isAlpha = false ∧ c ≠ '.' := by
  rcases ofSymbol?_cases h with ⟨rfl, -⟩ | ⟨rfl, -⟩ | ⟨op, rfl, -⟩
  · decide
  · decide
  · cases op <;> decide

/-- The characters behind a token do not make it longer. -/
def EndsBefore : Token → List Char → Prop
  | .number literal, rest => EndsLiteral literal.toList rest
  | .name _, rest | .function _, rest => ∀ c ∈ rest.head?, c.isAlphanum = false
  | _, _ => True

/-- The token of a word ends before whatever is neither a letter nor a digit. -/
theorem endsBefore_ofWord {word : String} {rest : List Char} :
    EndsBefore (ofWord word) rest ↔ ∀ c ∈ rest.head?, c.isAlphanum = false := by
  unfold ofWord
  split <;> rfl

/-- A token whose text stands at the front, and does not go on behind it, is the lexeme there. -/
theorem lexeme?_of_endsBefore {token : Token} {rest : List Char}
    (hlexical : ofText? token.text = some token) (hends : EndsBefore token rest) :
    ∃ c cs, token.text.toList ++ rest = c :: cs ∧ lexeme? c cs = some (token, rest) := by
  rcases ofText?_cases hlexical with ⟨hliteral, htoken⟩ | ⟨hword, htoken⟩ | ⟨c, hc, hsymbol⟩
  · rw [htoken] at hends
    have hcut := cutLiteral_literal hliteral hends
    obtain ⟨c, cs, hchars, hdigit⟩ := exists_digit_of_isLiteral hliteral
    refine ⟨c, cs ++ rest, by rw [hchars]; rfl, ?_⟩
    rw [hchars, List.cons_append] at hcut
    simp only [lexeme?, if_pos hdigit, hcut]
    rw [← hchars, String.ofList_toList, ← htoken]
  · rw [htoken, endsBefore_ofWord] at hends
    have hcut := cutWord_word hword hends
    obtain ⟨c, cs, hchars, hletter⟩ := exists_letter_of_isWord hword
    refine ⟨c, cs ++ rest, by rw [hchars]; rfl, ?_⟩
    rw [hchars, List.cons_append] at hcut
    simp only [lexeme?, isDigit_of_isAlpha hletter, if_neg Bool.false_ne_true, if_pos hletter,
      hcut]
    rw [← hchars, String.ofList_toList, ← htoken]
  · obtain ⟨hdigit, hletter, -⟩ := isAlphanum_of_ofSymbol? hsymbol
    refine ⟨c, rest, by rw [hc]; rfl, ?_⟩
    rw [lexeme?, hdigit, hletter, if_neg Bool.false_ne_true, if_neg Bool.false_ne_true, hsymbol]
    rfl

/-- A token that is a number literal. -/
def isNumber : Token → Bool
  | number _ => true
  | _ => false

/-- A token that is a word: the name of a variable or of a function. -/
def isName : Token → Bool
  | name _ | function _ => true
  | _ => false

/-- Written directly behind the first token, the second one would be taken for a part of it. -/
def fuses (first second : Token) : Bool :=
  first.isName && (second.isName || second.isNumber) || first.isNumber && second.isNumber

/-- A token that starts no operand fuses with nothing in front of it. -/
theorem fuses_eq_false {first second : Token} (h : second.startsOperand = false) :
    first.fuses second = false := by
  cases second with
  | operator op => simp [fuses, isName, isNumber]
  | closing => simp [fuses, isName, isNumber]
  | _ => cases h

/-- The characters of the texts of tokens, one directly after the other. -/
def spell (tokens : List Token) : List Char :=
  tokens.flatMap fun token => token.text.toList

/-- Words are tokens of words. -/
theorem isName_ofWord (word : String) : (ofWord word).isName = true := by
  unfold ofWord
  split <;> rfl

/-- The first character of a token tells what kind it is, and is never a point. -/
theorem exists_first_char {token : Token} (hlexical : ofText? token.text = some token) :
    ∃ c cs, token.text.toList = c :: cs ∧ c.isDigit = token.isNumber ∧
      c.isAlpha = token.isName ∧ c ≠ '.' := by
  rcases ofText?_cases hlexical with ⟨hliteral, htoken⟩ | ⟨hword, htoken⟩ | ⟨c, hc, hsymbol⟩
  · obtain ⟨c, cs, hchars, hdigit⟩ := exists_digit_of_isLiteral hliteral
    have hname : token.isName = false := by rw [htoken]; rfl
    refine ⟨c, cs, hchars, by rw [htoken, hdigit]; rfl, ?_, ?_⟩
    · rw [hname, ← Bool.not_eq_true]
      intro hletter
      rw [isDigit_of_isAlpha hletter] at hdigit
      cases hdigit
    · simpa using ne_point_of_isDigit hdigit
  · obtain ⟨c, cs, hchars, hletter⟩ := exists_letter_of_isWord hword
    have hname : token.isName = true := by rw [htoken]; exact isName_ofWord _
    have hnumber : token.isNumber = false := by
      cases token with
      | number literal => cases hname
      | _ => rfl
    refine ⟨c, cs, hchars, by rw [hnumber, isDigit_of_isAlpha hletter], by rw [hname, hletter], ?_⟩
    rintro rfl
    exact absurd hletter (by decide)
  · obtain ⟨hdigit, hletter, hpoint⟩ := isAlphanum_of_ofSymbol? hsymbol
    refine ⟨c, [], hc, ?_, ?_, hpoint⟩
    · rw [hdigit]
      rcases ofSymbol?_cases hsymbol with ⟨-, rfl⟩ | ⟨-, rfl⟩ | ⟨op, -, rfl⟩ <;> rfl
    · rw [hletter]
      rcases ofSymbol?_cases hsymbol with ⟨-, rfl⟩ | ⟨-, rfl⟩ | ⟨op, -, rfl⟩ <;> rfl

/-- A token does not go on into a token with which it does not fuse. -/
theorem endsBefore_spell {first second : Token} {tokens : List Token}
    (hlexical : ofText? second.text = some second) (hfuse : first.fuses second = false) :
    EndsBefore first (spell (second :: tokens)) := by
  obtain ⟨c, cs, hchars, hdigit, hletter, hpoint⟩ := exists_first_char hlexical
  have hspell : spell (second :: tokens) = c :: (cs ++ spell tokens) := by
    rw [spell, List.flatMap_cons, hchars]
    rfl
  have hword : first.isName = true → c.isAlphanum = false := by
    intro hname
    simp only [fuses, hname, Bool.true_and, Bool.or_eq_false_iff] at hfuse
    simp [Char.isAlphanum, hdigit, hletter, hfuse.1]
  rw [hspell]
  cases first with
  | number literal =>
    have hnumber : second.isNumber = false := by simpa [fuses, isNumber, isName] using hfuse
    exact ⟨by simp [hdigit, hnumber], Or.inr fun hhead => absurd (Option.some.inj hhead) hpoint⟩
  | name n => simpa [EndsBefore] using hword rfl
  | function f => simpa [EndsBefore] using hword rfl
  | _ => trivial

/-- At the end of a text nothing makes a token longer. -/
theorem endsBefore_nil (token : Token) : EndsBefore token [] := by
  cases token with
  | number literal => exact ⟨by simp, Or.inr fun hhead => by cases hhead⟩
  | _ => simp [EndsBefore]

end Token

open Token

/-- What tokens spell is cut into these tokens again, if no two neighbours fuse. -/
theorem Piece.cut_spell {tokens : List Token}
    (hlexical : ∀ token ∈ tokens, ofText? token.text = some token)
    (hfuse : tokens.IsChain fun first second => first.fuses second = false) :
    cut (spell tokens) = tokens.map .token := by
  induction tokens with
  | nil => simp [spell, cut]
  | cons token tokens ih =>
    have hrest := ih (fun other hother => hlexical other (List.mem_cons_of_mem _ hother)) hfuse.tail
    have hends : EndsBefore token (spell tokens) := by
      cases tokens with
      | nil => exact endsBefore_nil token
      | cons second tokens =>
        exact endsBefore_spell (hlexical second (by simp)) (List.isChain_cons_cons.mp hfuse).1
    obtain ⟨c, cs, hchars, hlexeme⟩ := lexeme?_of_endsBefore (hlexical token (by simp)) hends
    rw [spell, List.flatMap_cons, ← spell, hchars, cut]
    split
    · rename_i lexeme behind hfound
      rw [hlexeme] at hfound
      cases hfound
      rw [hrest, List.map_cons]
    · rename_i hnone
      rw [hlexeme] at hnone
      cases hnone

/-- A text that is spelled by tokens, apart from blanks, is scanned into these tokens. -/
theorem Token.scan_of_strip {text : String} {tokens : List Token}
    (htext : Text.strip text = spell tokens)
    (hlexical : ∀ token ∈ tokens, ofText? token.text = some token)
    (hfuse : tokens.IsChain fun first second => first.fuses second = false) :
    scan text = tokens := by
  rw [scan, Piece.ofText, htext, Piece.cut_spell hlexical hfuse, List.filterMap_map]
  exact List.filterMap_some

/-- Where no operand starts directly behind another and every function has brackets, no two
neighbours fuse. -/
theorem Token.isChain_fuses {tokens : List Token} (hjux : juxtapositions false tokens = 0)
    (hcalls : callsBracketed tokens = true) :
    tokens.IsChain fun first second => first.fuses second = false := by
  rw [juxtapositions_eq_zero_iff] at hjux
  induction tokens with
  | nil => exact .nil
  | cons first tokens ih =>
    cases tokens with
    | nil => exact .singleton first
    | cons second tokens =>
      obtain ⟨hapart, hrest⟩ := List.isChain_cons_cons.mp hjux
      have hbehind : callsBracketed (second :: tokens) = true := by
        cases first with
        | function f => exact (Bool.and_eq_true_iff.mp hcalls).2
        | _ => exact hcalls
      refine List.isChain_cons_cons.mpr ⟨?_, ih hrest hbehind⟩
      cases first with
      | function f =>
        have hopening : second = .opening := by simpa using (Bool.and_eq_true_iff.mp hcalls).1
        rw [hopening]
        rfl
      | number literal => exact fuses_eq_false (by simpa [endsOperand] using hapart)
      | name n => exact fuses_eq_false (by simpa [endsOperand] using hapart)
      | _ => rfl

/-- In an expression no two neighbours fuse. -/
theorem Grammatical.isChain_fuses {tokens : List Token} (h : Grammatical tokens) :
    tokens.IsChain fun first second => first.fuses second = false := by
  obtain ⟨⟨-, hjux, -⟩, hcalls⟩ := grammatical_iff.mp h
  exact Token.isChain_fuses hjux hcalls

end Calculator
