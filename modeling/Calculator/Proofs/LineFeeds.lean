import Calculator.Proofs.MachineErrors
import Calculator.Proofs.Replies
import Calculator.Proofs.ScannedTokens
import Calculator.Proofs.TextInput

/-!
# Line feeds

What a session writes quotes texts from outside: names and numbers of an expression, and answers
that were refused. A line feed is blank, so no token has one, and an answer has one only at the end
of its line, where it is trimmed off. So every text that is quoted stays on its line.
-/

namespace Calculator

namespace Text

/-- A text without a line feed. -/
def Unbroken (text : String) : Prop :=
  '\n' ∉ text.toList

instance (text : String) : Decidable (Unbroken text) :=
  inferInstanceAs (Decidable ('\n' ∉ text.toList))

/-- A text that is one line, with its line feed. -/
def IsLine (line : String) : Prop :=
  ∃ body, Unbroken body ∧ line = body ++ "\n"

theorem Unbroken.append {first second : String} (hfirst : Unbroken first)
    (hsecond : Unbroken second) : Unbroken (first ++ second) := by
  simp only [Unbroken, String.toList_append, List.mem_append, not_or]
  exact ⟨hfirst, hsecond⟩

theorem Unbroken.isLine {body : String} (h : Unbroken body) : IsLine (body ++ "\n") :=
  ⟨body, h, rfl⟩

/-- Behind a text without a line feed, a line is still one line. -/
theorem IsLine.append {front line : String} (hline : IsLine line) (hfront : Unbroken front) :
    IsLine (front ++ line) := by
  obtain ⟨body, hbody, rfl⟩ := hline
  exact ⟨front ++ body, hfront.append hbody, (String.append_assoc ..).symm⟩

theorem unbroken_join {texts : List String} (h : ∀ text ∈ texts, Unbroken text) :
    Unbroken (String.join texts) := by
  simp only [Unbroken, String.toList_join, List.mem_flatMap, not_exists, not_and]
  exact h

theorem unbroken_intercalate {separator : String} {texts : List String}
    (hseparator : Unbroken separator) (h : ∀ text ∈ texts, Unbroken text) :
    Unbroken (separator.intercalate texts) := by
  induction texts with
  | nil => simp [Unbroken]
  | cons text texts ih =>
    rw [List.forall_mem_cons] at h
    cases texts with
    | nil => simpa using h.1
    | cons next texts =>
      rw [String.intercalate_cons_cons]
      exact (h.1.append hseparator).append (ih h.2)

/-- Digits are no line feeds. -/
theorem unbroken_of_isDigit {cs : List Char} (h : ∀ c ∈ cs, c.isDigit = true ∨ c = '.') :
    Unbroken (String.ofList cs) := by
  intro hmem
  rw [String.toList_ofList] at hmem
  rcases h '\n' hmem with hdigit | hpoint
  · exact absurd hdigit (by decide)
  · exact absurd hpoint (by decide)

/-- Trimming adds no characters. -/
theorem mem_of_mem_trimChars {c : Char} {cs : List Char} (h : c ∈ trimChars cs) : c ∈ cs := by
  have hbehind := (List.dropWhile_suffix isBlank).subset (List.mem_reverse.mp h)
  exact (List.dropWhile_suffix isBlank).subset (List.mem_reverse.mp hbehind)

/-- Trimmed, a text of no more than one line has no line feed. -/
theorem unbroken_trim {text : String} (h : (linesOf (· == '\n') text.toList).length ≤ 1) :
    Unbroken (trim text) := by
  have hfeed : isBlank '\n' = true := by decide
  by_cases hne : text.toList = []
  · simp [Unbroken, trim, hne, trimChars]
  have hlines := linesOf_eq_cons (· == '\n') hne
  have hbehind : linesOf (· == '\n') (firstLine (· == '\n') text.toList).2 = [] := by
    rw [hlines, List.length_cons] at h
    exact List.length_eq_zero_iff.mp (by omega)
  have hwhole : (firstLine (· == '\n') text.toList).1 = text.toList := by
    have hflatten := flatten_linesOf (· == '\n') text.toList
    rwa [hlines, hbehind, List.flatten_cons, List.flatten_nil, List.append_nil] at hflatten
  have hbody : '\n' ∉ text.toList.takeWhile fun c => !(c == '\n') := fun hmem =>
    absurd (List.mem_takeWhile_imp hmem) (by decide)
  -- what stands behind the body of the line is its line feed, if there is one
  have htrim : trimChars text.toList =
      trimChars (text.toList.takeWhile fun c => !(c == '\n')) := by
    conv_lhs => rw [← hwhole, firstLine]
    cases hrest : text.toList.dropWhile fun c => !(c == '\n') with
    | nil => simp
    | cons c cs =>
      have hc := List.head?_dropWhile_not (fun c => !(c == '\n')) text.toList
      rw [hrest] at hc
      have hend : c = '\n' := by simpa using hc
      rw [hend]
      exact trimChars_append_blank hfeed _
  rw [Unbroken, trim, String.toList_ofList, htrim]
  exact fun hmem => hbody (mem_of_mem_trimChars hmem)

/-- A first line is no more than one line. -/
theorem length_linesOf_firstLine {α : Type} (isEnd : α → Bool) (xs : List α) :
    (linesOf isEnd (firstLine isEnd xs).1).length ≤ 1 := by
  induction xs with
  | nil => simp [firstLine, linesOf]
  | cons x xs ih =>
    cases hx : isEnd x with
    | true => simp [firstLine_cons_end hx, linesOf, consLine, hx]
    | false =>
      rw [firstLine_cons_body hx, linesOf_cons]
      cases hlines : linesOf isEnd (firstLine isEnd xs).1 with
      | nil => simp [consLine, hx]
      | cons line lines =>
        rw [hlines] at ih
        simpa [consLine, hx] using ih

/-- Up to its first line end, a sequence is its first line, whatever stands behind. -/
theorem firstLine_body_end {α : Type} {isEnd : α → Bool} {xs : List α} {x : α}
    (hbody : ∀ y ∈ xs, isEnd y = false) (hend : isEnd x = true) (ys : List α) :
    firstLine isEnd (xs ++ x :: ys) = (xs ++ [x], ys) := by
  induction xs with
  | nil => exact firstLine_cons_end hend ys
  | cons y xs ih =>
    rw [List.forall_mem_cons] at hbody
    rw [List.cons_append, firstLine_cons_body hbody.1, ih hbody.2, List.cons_append]

end Text

namespace Console

open Text

/-- Bytes that encode a text are the bytes of that text. -/
theorem encode_of_decode? {bytes : List UInt8} {text : String} (h : decode? bytes = some text) :
    encode text = bytes := by
  rw [decode?, String.fromUTF8?] at h
  split at h
  · cases h
    rw [encode_eq]
    rfl
  · cases h

/-- The bytes of a text without a line feed are no line feeds. -/
theorem isLineFeed_of_unbroken {text : String} (h : Unbroken text) :
    ∀ byte ∈ encode text, isLineFeed byte = false := by
  intro byte hmem
  rw [← String.ofList_toList (s := text), encode_ofList, List.mem_flatMap] at hmem
  obtain ⟨c, hc, hbyte⟩ := hmem
  refine Bool.eq_false_iff.mpr fun hfeed => h ?_
  rwa [← eq_lineFeed_of_mem hbyte hfeed]

/-- What is read as a line is trimmed to a text without a line feed. -/
theorem unbroken_trim_of_decode? {bytes : List UInt8} {text : String}
    (h : decode? (firstLine isLineFeed bytes).1 = some text) : Unbroken (trim text) := by
  refine unbroken_trim ?_
  have hlines := congrArg List.length (linesOf_encode text)
  rw [List.length_map, encode_of_decode? h] at hlines
  rw [← hlines]
  exact length_linesOf_firstLine isLineFeed bytes

theorem encode_lineFeed : encode "\n" = [10] := by
  rw [encode_eq]
  decide

/-- The lines of an output that is written line by line. -/
theorem linesOf_flatMap_encode {lines : List String} (h : ∀ line ∈ lines, IsLine line) :
    linesOf isLineFeed (lines.flatMap encode) = lines.map encode := by
  induction lines with
  | nil => rfl
  | cons line lines ih =>
    rw [List.forall_mem_cons] at h
    obtain ⟨⟨body, hbody, rfl⟩, hlines⟩ := h
    have hfirst : firstLine isLineFeed (encode (body ++ "\n") ++ lines.flatMap encode) =
        (encode (body ++ "\n"), lines.flatMap encode) := by
      rw [encode_append, encode_lineFeed, List.append_assoc, List.singleton_append]
      exact firstLine_body_end (isLineFeed_of_unbroken hbody) rfl _
    have hne : encode (body ++ "\n") ++ lines.flatMap encode ≠ [] := by
      simp [encode_append, encode_lineFeed]
    rw [List.flatMap_cons, linesOf_eq_cons isLineFeed hne, hfirst, ih hlines, List.map_cons]

/-- An output that is written line by line has one line feed for each line. -/
theorem count_flatMap_encode {lines : List String} (h : ∀ line ∈ lines, IsLine line) :
    (lines.flatMap encode).countP isLineFeed = lines.length := by
  induction lines with
  | nil => rfl
  | cons line lines ih =>
    rw [List.forall_mem_cons] at h
    obtain ⟨⟨body, hbody, rfl⟩, hlines⟩ := h
    have hnone : (encode body).countP isLineFeed = 0 :=
      List.countP_eq_zero.mpr fun byte hbyte =>
        Bool.eq_false_iff.mp (isLineFeed_of_unbroken hbody byte hbyte)
    rw [List.flatMap_cons, List.countP_append, ih hlines, encode_append, encode_lineFeed,
      List.countP_append, hnone, List.length_cons]
    exact Nat.add_comm 1 _

end Console

/-! ## Texts that are written -/

open Text (Unbroken)

theorem Decimal.mem_naturalText {n : Nat} {c : Char} (h : c ∈ naturalText n) :
    c.isDigit = true :=
  Nat.isDigit_of_mem_toDigits (by decide) (by decide) h

/-- A decimal fraction is written with digits and a point. -/
theorem Decimal.mem_text {d : Decimal} {c : Char} (h : c ∈ d.text) :
    c.isDigit = true ∨ c = '.' := by
  have hzero : '0'.isDigit = true := by decide
  simp only [text] at h
  split at h
  · rcases List.mem_append.mp h with hwritten | hzeros
    · exact Or.inl (mem_naturalText hwritten)
    · rw [List.eq_of_mem_replicate hzeros]
      exact Or.inl hzero
  · split at h
    · rcases List.mem_append.mp h with hwhole | hfraction
      · exact Or.inl (mem_naturalText (List.mem_of_mem_take hwhole))
      · rcases List.mem_cons.mp hfraction with hpoint | hbehind
        · exact Or.inr hpoint
        · exact Or.inl (mem_naturalText (List.mem_of_mem_drop hbehind))
    · rcases List.mem_append.mp h with hzeros | hwritten
      · rcases List.mem_cons.mp hzeros with rfl | hpoint
        · exact Or.inl hzero
        · rcases List.mem_cons.mp hpoint with hpoint | hzeros
          · exact Or.inr hpoint
          · rw [List.eq_of_mem_replicate hzeros]
            exact Or.inl hzero
      · exact Or.inl (mem_naturalText hwritten)

theorem Number.unbroken_text (x : Float) : Unbroken (text x) := by
  have hsign : Unbroken (if Nat.pow 2 63 ≤ x.toBits.toNat then "-" else "") := by
    split <;> decide
  simp only [text]
  split
  · decide
  · split
    · exact hsign.append (by decide)
    · split
      · exact hsign.append (by decide)
      · exact hsign.append (Text.unbroken_of_isDigit fun c => Decimal.mem_text)

namespace Token

/-- No token of a text has a line feed. -/
theorem unbroken_of_mem_scan {text : String} {token : Token} (h : token ∈ scan text) :
    Unbroken token.text := by
  intro hmem
  exact absurd (isBlank_of_mem_scan h hmem) (by decide)

end Token

namespace Expression

variable {text : String} {x : Expression}

theorem unbroken_spaced (hx : ofText text = .ok x) : Unbroken (Token.spaced x.rpn) := by
  refine Text.unbroken_intercalate (by decide) fun t ht => ?_
  obtain ⟨token, hmem, rfl⟩ := List.mem_map.mp ht
  exact Token.unbroken_of_mem_scan (mem_scan_of_mem_rpn hx hmem)

theorem unbroken_of_mem_variableNames (hx : ofText text = .ok x) {name : String}
    (h : name ∈ x.variableNames) : Unbroken name := by
  rw [variableNames, (ofText_eq_ok_iff.mp hx).1] at h
  exact Token.unbroken_of_mem_scan (Token.mem_variableNames.mp h)

/-- The error of an evaluation is written on one line. -/
theorem unbroken_message_of_value (hx : ofText text = .ok x) {b : Bindings} {e : EvalError}
    (h : x.value b = .error e) : Unbroken e.message := by
  have hquoted : ∀ {front quoted back : String}, Unbroken front → Unbroken back →
      Unbroken quoted → Unbroken (front ++ quoted ++ back) := fun hfront hback hmiddle =>
    (hfront.append hmiddle).append hback
  rcases StackMachine.error_of_evaluate h with hnode | hmisfit
  · cases hnode with
    | literal hmem _ =>
      exact hquoted (by decide) (by decide)
        (Token.unbroken_of_mem_scan (mem_scan_of_mem_rpn hx hmem))
    | unbound hmem _ =>
      exact hquoted (by decide) (by decide)
        (Token.unbroken_of_mem_scan (mem_scan_of_mem_rpn hx hmem))
    | division => decide
    | root _ => exact hquoted (by decide) (by decide) (Number.unbroken_text _)
  · cases e with
    | missingOperand op => exact hquoted (by decide) (by decide) (by cases op <;> decide)
    | missingArgument f => exact hquoted (by decide) (by decide) (by cases f <;> decide)
    | countMismatch count =>
      have hcount : Unbroken (toString count) := by
        intro hmem
        rw [Nat.toString_eq_ofList_toDigits, String.toList_ofList] at hmem
        exact absurd (Decimal.mem_naturalText hmem) (by decide)
      exact hquoted (by decide) (by decide) hcount
    | _ => cases hmisfit

end Expression

theorem BracketError.unbroken_message (e : BracketError) : Unbroken e.message := by
  cases e <;> decide

namespace ValueSource

theorem unbroken_promptText {name : String} (h : Unbroken name) : Unbroken (promptText name) :=
  (Text.Unbroken.append (by decide) h).append (by decide)

/-- The refusal of an answer is written on one line. -/
theorem unbroken_message_of_readAnswer {name line : String} {e : SourceError}
    (hname : Unbroken name) (hline : Unbroken (Text.trim line))
    (h : readAnswer name line = .error e) : Unbroken e.message := by
  simp only [readAnswer] at h
  split at h
  · cases h
  · cases h
    exact (((Text.Unbroken.append (by decide) hline).append (by decide)).append hname).append
      (by decide)

end ValueSource

namespace Session

open Text (IsLine)

theorem Options.isLine_of_mem_rpnLine? {o : Options} {text line : String}
    (h : line ∈ o.rpnLine? text) : IsLine line := by
  simp only [Options.rpnLine?] at h
  split at h
  · rename_i x hx
    split at h
    · cases h
      have hspaced : Unbroken ("postfix: " ++ Token.spaced x.rpn) :=
        Text.Unbroken.append (by decide) (Expression.unbroken_spaced hx)
      exact hspaced.isLine
    · cases h
  · cases h

theorem isLine_reply {outcome : Except Error Float}
    (h : ∀ e, outcome = .error e → Unbroken e.message) : IsLine (reply outcome) := by
  cases outcome with
  | ok value =>
    have hvalue : Unbroken ("=> " ++ Number.text value) :=
      Text.Unbroken.append (by decide) (Number.unbroken_text value)
    exact hvalue.isLine
  | error e => exact (h e rfl).isLine

end Session

end Calculator
