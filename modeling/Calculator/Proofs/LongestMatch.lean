import Calculator.Noted
import Calculator.Proofs.Spelling

/-!
# The longest match

Whether a text is a token is decided of the text as a whole. The scanner never asks that question:
it cuts off digits, letters or a single character in front. Here its pieces are described by the
question alone. At each place the longest text in front that is a token is cut off; where no text
in front is a token, a single character is dropped. There is exactly one such way to cut a text.
-/

namespace Calculator

open Token

/-- A text is the longest in front of some characters that is a token. -/
structure LongestToken (cs front : List Char) (token : Token) : Prop where
  /-- The text stands in front. -/
  stands : front <+: cs
  /-- The text is the token. -/
  reads : ofText? (String.ofList front) = some token
  /-- No longer text in front is a token. -/
  longest : ∀ other, other <+: cs → (ofText? (String.ofList other)).isSome = true →
    other.length ≤ front.length

/-- Characters are cut into pieces at the longest tokens. -/
inductive LongestCut : List Char → List Piece → Prop where
  | nil : LongestCut [] []
  /-- The longest text in front that is a token is a piece. -/
  | token {front rest : List Char} {token : Token} {pieces : List Piece}
    (first : LongestToken (front ++ rest) front token) (behind : LongestCut rest pieces) :
    LongestCut (front ++ rest) (.token token :: pieces)
  /-- Where no text in front is a token, the first character is a piece. -/
  | dropped {c : Char} {rest : List Char} {pieces : List Piece}
    (hnone : ∀ front, front <+: c :: rest → front ≠ [] → ofText? (String.ofList front) = none)
    (behind : LongestCut rest pieces) : LongestCut (c :: rest) (.dropped c :: pieces)

namespace Lexical

/-- Characters in front that all qualify are among those that are cut off. -/
theorem length_le_takeWhile {p : Char → Bool} {front cs : List Char} (h : front <+: cs)
    (hall : ∀ c ∈ front, p c = true) : front.length ≤ (cs.takeWhile p).length := by
  obtain ⟨rest, rfl⟩ := h
  rw [List.takeWhile_append_of_pos hall, List.length_append]
  omega

/-- What is cut off at a digit is a literal. -/
theorem isLiteral_cutLiteral {c : Char} (h : c.isDigit = true) (cs : List Char) :
    isLiteral (cutLiteral (c :: cs)).1 = true := by
  have hwhole : isDigits ((c :: cs).takeWhile Char.isDigit) = true :=
    isDigits_iff.mpr ⟨by simp [h], fun d hd => List.mem_takeWhile_imp hd⟩
  rw [isLiteral_iff]
  simp only [cutLiteral]
  split
  · rename_i rest hrest
    split
    · exact Or.inl hwhole
    · rename_i hfraction
      have hdigits : isDigits (rest.takeWhile Char.isDigit) = true :=
        isDigits_iff.mpr ⟨by simpa using hfraction, fun d hd => List.mem_takeWhile_imp hd⟩
      exact Or.inr ⟨_, _, rfl, hwhole, hdigits⟩
  · exact Or.inl hwhole

/-- No literal in front is longer than what is cut off. -/
theorem length_le_cutLiteral {front cs : List Char} (h : front <+: cs)
    (hliteral : isLiteral front = true) : front.length ≤ (cutLiteral cs).1.length := by
  rcases isLiteral_iff.mp hliteral with hdigits | ⟨whole, fraction, rfl, hwhole, hfraction⟩
  · have hle := length_le_takeWhile h (isDigits_iff.mp hdigits).2
    simp only [cutLiteral]
    split
    · split
      · exact hle
      · rw [List.length_append]
        omega
    · exact hle
  · obtain ⟨rest, rfl⟩ := h
    obtain ⟨-, hwholes⟩ := isDigits_iff.mp hwhole
    obtain ⟨hne, hfractions⟩ := isDigits_iff.mp hfraction
    have hstop : ∀ c ∈ ('.' :: (fraction ++ rest)).head?, c.isDigit = false := by simp
    have hle : fraction.length ≤ ((fraction ++ rest).takeWhile Char.isDigit).length :=
      length_le_takeWhile (List.prefix_append ..) hfractions
    have hsome : ((fraction ++ rest).takeWhile Char.isDigit).isEmpty = false := by
      rw [← List.length_pos_iff] at hne
      rw [List.isEmpty_eq_false_iff, ← List.length_pos_iff]
      omega
    simp only [List.append_assoc, List.cons_append, cutLiteral,
      takeWhile_append_stop hwholes hstop, dropWhile_append_stop hwholes hstop, hsome,
      Bool.false_eq_true, if_false, List.length_append, List.length_cons]
    omega

/-- What is cut off at a letter is a word. -/
theorem isWord_cutWord {c : Char} (h : c.isAlpha = true) (cs : List Char) :
    isWord (cutWord (c :: cs)).1 = true := by
  have hfirst : c.isAlphanum = true := by simp [Char.isAlphanum, h]
  simp only [cutWord, List.takeWhile_cons, hfirst, if_true, isWord, h, Bool.true_and,
    List.all_eq_true]
  exact fun d hd => List.mem_takeWhile_imp hd

/-- No word in front is longer than what is cut off. -/
theorem length_le_cutWord {front cs : List Char} (h : front <+: cs) (hword : isWord front = true) :
    front.length ≤ (cutWord cs).1.length :=
  length_le_takeWhile h (isAlphanum_of_isWord hword)

/-- A token in front of characters tells the first of them. -/
theorem first_of_ofText? {c : Char} {cs front : List Char} {token : Token} (h : front <+: c :: cs)
    (hreads : ofText? (String.ofList front) = some token) :
    (c.isDigit = true ∧ isLiteral front = true) ∨ (c.isAlpha = true ∧ isWord front = true) ∨
      (front = [c] ∧ ofSymbol? c = some token) := by
  have hcases := ofText?_cases hreads
  rw [String.toList_ofList] at hcases
  rcases hcases with ⟨hliteral, -⟩ | ⟨hword, -⟩ | ⟨d, rfl, hsymbol⟩
  · obtain ⟨d, others, rfl, hdigit⟩ := exists_digit_of_isLiteral hliteral
    rw [(List.cons_prefix_cons.mp h).1] at hdigit
    exact Or.inl ⟨hdigit, hliteral⟩
  · obtain ⟨d, others, rfl, hletter⟩ := exists_letter_of_isWord hword
    rw [(List.cons_prefix_cons.mp h).1] at hletter
    exact Or.inr (Or.inl ⟨hletter, hword⟩)
  · rw [(List.cons_prefix_cons.mp h).1] at hsymbol ⊢
    exact Or.inr (Or.inr ⟨rfl, hsymbol⟩)

/-- A literal is the token of its own text. -/
theorem ofText?_literal {cs : List Char} (h : isLiteral cs = true) :
    ofText? (String.ofList cs) = some (.number (String.ofList cs)) := by
  simp [ofText?, h]

/-- A word is the token of its own text. -/
theorem ofText?_word {cs : List Char} (h : isWord cs = true) :
    ofText? (String.ofList cs) = some (ofWord (String.ofList cs)) := by
  simp [ofText?, isLiteral_of_isWord h, h]

/-- A single character that stands for a token is its whole text. -/
theorem ofText?_symbol {c : Char} {token : Token} (h : ofSymbol? c = some token) :
    ofText? (String.ofList [c]) = some token := by
  obtain ⟨hdigit, hletter, -⟩ := isAlphanum_of_ofSymbol? h
  have hliteral : isLiteral [c] = false := by
    rw [← Bool.not_eq_true]
    intro hliteral
    obtain ⟨first, others, heq, hfirst⟩ := exists_digit_of_isLiteral hliteral
    cases heq
    simp [hdigit] at hfirst
  simp [ofText?, hliteral, isWord, hletter, h]

/-- The lexeme in front of characters is the longest token there. -/
theorem longestToken_of_lexeme? {c : Char} {cs rest : List Char} {token : Token}
    (h : lexeme? c cs = some (token, rest)) :
    LongestToken (c :: cs) token.text.toList token := by
  have hstands : token.text.toList <+: c :: cs := ⟨rest, lexeme?_append h⟩
  unfold lexeme? at h
  split at h
  · rename_i hdigit
    have hliteral := isLiteral_cutLiteral hdigit cs
    have hlongest : ∀ other, other <+: c :: cs → isLiteral other = true →
        other.length ≤ (cutLiteral (c :: cs)).1.length := fun _ => length_le_cutLiteral
    cases hcut : cutLiteral (c :: cs) with
    | mk literal behind =>
      rw [hcut] at h hliteral hlongest
      cases h
      rw [Token.text, String.toList_ofList] at hstands ⊢
      refine ⟨hstands, ofText?_literal hliteral, ?_⟩
      intro other hother hsome
      obtain ⟨found, hreads⟩ := Option.isSome_iff_exists.mp hsome
      rcases first_of_ofText? hother hreads with ⟨-, hshorter⟩ | ⟨hletter, -⟩ | ⟨-, hsymbol⟩
      · exact hlongest other hother hshorter
      · simp [isDigit_of_isAlpha hletter] at hdigit
      · simp [(isAlphanum_of_ofSymbol? hsymbol).1] at hdigit
  · rename_i hdigit
    split at h
    · rename_i hletter
      cases h
      rw [Token.text_ofWord, String.toList_ofList] at hstands ⊢
      refine ⟨hstands, ofText?_word (isWord_cutWord hletter cs), ?_⟩
      intro other hother hsome
      obtain ⟨found, hreads⟩ := Option.isSome_iff_exists.mp hsome
      rcases first_of_ofText? hother hreads with ⟨hfirst, -⟩ | ⟨-, hshorter⟩ | ⟨-, hsymbol⟩
      · exact absurd hfirst hdigit
      · exact length_le_cutWord hother hshorter
      · simp [(isAlphanum_of_ofSymbol? hsymbol).2.1] at hletter
    · rename_i hletter
      obtain ⟨symbol, hsymbol, heq⟩ := Option.map_eq_some_iff.mp h
      cases heq
      have htext : token.text.toList = [c] := by simp [text_of_ofSymbol? hsymbol]
      rw [htext] at hstands ⊢
      refine ⟨hstands, ofText?_symbol hsymbol, ?_⟩
      intro other hother hsome
      obtain ⟨found, hreads⟩ := Option.isSome_iff_exists.mp hsome
      rcases first_of_ofText? hother hreads with ⟨hfirst, -⟩ | ⟨hfirst, -⟩ | ⟨rfl, -⟩
      · exact absurd hfirst hdigit
      · exact absurd hfirst hletter
      · exact Nat.le_refl _

/-- Where there is no lexeme, no text in front is a token. -/
theorem ofText?_of_lexeme?_eq_none {c : Char} {cs : List Char} (h : lexeme? c cs = none)
    {front : List Char} (hstands : front <+: c :: cs) : ofText? (String.ofList front) = none := by
  rw [Option.eq_none_iff_forall_ne_some]
  intro token hreads
  unfold lexeme? at h
  split at h
  · cases h
  · rename_i hdigit
    split at h
    · cases h
    · rename_i hletter
      rcases first_of_ofText? hstands hreads with ⟨hfirst, -⟩ | ⟨hfirst, -⟩ | ⟨-, hsymbol⟩
      · exact hdigit hfirst
      · exact hletter hfirst
      · simp [hsymbol] at h

end Lexical

/-- The scanner cuts at the longest tokens. -/
theorem Piece.longestCut_cut (cs : List Char) : LongestCut cs (cut cs) := by
  fun_induction cut cs with
  | case1 => exact .nil
  | case2 c cs token rest h _ ih =>
    have hlongest := Lexical.longestToken_of_lexeme? h
    rw [← Lexical.lexeme?_append h] at hlongest ⊢
    exact .token hlongest ih
  | case3 c cs h ih =>
    exact .dropped (fun front hstands _ => Lexical.ofText?_of_lexeme?_eq_none h hstands) ih

/-- The empty text is no token. -/
theorem LongestToken.ne_nil {cs front : List Char} {token : Token}
    (h : LongestToken cs front token) : front ≠ [] := by
  rintro rfl
  have hreads := h.reads
  cases hreads

/-- There is only one longest token. -/
theorem LongestToken.unique {cs front other : List Char} {token another : Token}
    (h : LongestToken cs front token) (hother : LongestToken cs other another) :
    front = other ∧ token = another := by
  have hle : front.length ≤ other.length :=
    hother.longest front h.stands (by rw [h.reads]; rfl)
  have hge : other.length ≤ front.length :=
    h.longest other hother.stands (by rw [hother.reads]; rfl)
  have hsame : front = other :=
    List.IsPrefix.eq_of_length (List.prefix_of_prefix_length_le h.stands hother.stands hle)
      (Nat.le_antisymm hle hge)
  subst hsame
  have hreads := h.reads.symm.trans hother.reads
  exact ⟨rfl, Option.some.inj hreads⟩

/-- There is only one way to cut at the longest tokens. -/
theorem LongestCut.unique {cs : List Char} {pieces others : List Piece}
    (h : LongestCut cs pieces) (hothers : LongestCut cs others) : pieces = others := by
  induction h generalizing others with
  | nil =>
    generalize hcs : ([] : List Char) = cs at hothers
    cases hothers with
    | nil => rfl
    | token first _ => exact absurd (List.append_eq_nil_iff.mp hcs.symm).1 first.ne_nil
    | dropped => cases hcs
  | @token front rest token pieces first _ ih =>
    generalize hcs : front ++ rest = cs at hothers first
    cases hothers with
    | nil => exact absurd (List.append_eq_nil_iff.mp hcs).1 first.ne_nil
    | token other behind =>
      obtain ⟨rfl, rfl⟩ := first.unique other
      rw [List.append_cancel_left_eq] at hcs
      subst hcs
      rw [ih behind]
    | dropped hnone _ =>
      have hreads := first.reads
      rw [hnone front first.stands first.ne_nil] at hreads
      cases hreads
  | @dropped c rest pieces hnone _ ih =>
    generalize hcs : c :: rest = cs at hothers hnone
    cases hothers with
    | nil => cases hcs
    | token other _ =>
      have hreads := other.reads
      rw [hnone _ other.stands other.ne_nil] at hreads
      cases hreads
    | dropped _ behind =>
      cases hcs
      rw [ih behind]

namespace Recorded

variable {α β : Type}

@[simp]
theorem events_note (event : Event) : (Journal.note event : Recorded Unit).events = [event] := rfl

end Recorded

end Calculator
