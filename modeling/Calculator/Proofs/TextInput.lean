import Calculator.Proofs.Dialogue

/-!
# Texts as input

A text can be given to a console as its bytes. Read line by line, these are the lines of the text:
in UTF-8 the byte of a line feed is part of no other character. What a line ends with is blank, so
a trimmed line does not show whether its end was kept.
-/

namespace Calculator

namespace Text

/-- Characters before the first line end join the line that follows them. -/
theorem linesOf_append {α : Type} {isEnd : α → Bool} {xs : List α} (hne : xs ≠ [])
    (hbody : ∀ x ∈ xs, isEnd x = false) (ys : List α) :
    linesOf isEnd (xs ++ ys) =
      (xs ++ (linesOf isEnd ys).headD []) :: (linesOf isEnd ys).tail := by
  induction xs with
  | nil => exact absurd rfl hne
  | cons x xs ih =>
    have hx : isEnd x = false := hbody x (List.mem_cons_self ..)
    cases xs with
    | nil =>
      rw [List.singleton_append, linesOf_cons]
      cases linesOf isEnd ys <;> simp [consLine, hx]
    | cons y xs =>
      have hlines := ih (List.cons_ne_nil y xs) fun z hz => hbody z (List.mem_cons_of_mem _ hz)
      rw [List.cons_append, linesOf_cons, hlines]
      simp [consLine, hx]

/-- A blank at the end of a line is trimmed off. -/
theorem trimChars_append_blank {c : Char} (h : isBlank c = true) (cs : List Char) :
    trimChars (cs ++ [c]) = trimChars cs := by
  simp only [trimChars, List.dropWhile_append]
  cases hrest : cs.dropWhile isBlank with
  | nil => simp [h]
  | cons d rest => simp [h]

/-- Trimmed, a line is the same with and without its end. -/
theorem trimChars_withoutLineEnd (line : List Char) :
    trimChars (withoutLineEnd line) = trimChars line := by
  have hfeed : isBlank '\n' = true := by decide
  have hreturn : isBlank '\r' = true := by decide
  rw [withoutLineEnd]
  split
  · rename_i body heq
    have hline : line = body.reverse ++ ['\r'] ++ ['\n'] := by
      rw [← List.reverse_reverse line, heq]
      simp
    rw [hline, trimChars_append_blank hfeed, trimChars_append_blank hreturn]
  · rename_i body _ heq
    have hline : line = body.reverse ++ ['\n'] := by
      rw [← List.reverse_reverse line, heq]
      simp
    rw [hline, trimChars_append_blank hfeed]
  · rfl

end Text

namespace Console

/-- From a place on, the bytes of an array are those behind the place. -/
private theorem toList_loop_eq (bytes : ByteArray) (i : Nat) (taken : List UInt8) :
    ByteArray.toList.loop bytes i taken = taken.reverse ++ bytes.data.toList.drop i := by
  fun_induction ByteArray.toList.loop bytes i taken with
  | case1 i taken hlt ih =>
    have hi : i < bytes.data.toList.length := by simpa using hlt
    rw [ih, List.drop_eq_getElem_cons hi]
    simp [ByteArray.get!, getElem!_pos bytes.data i hlt]
  | case2 i taken hge =>
    have hlength : bytes.data.toList.length ≤ i := by simpa using hge
    rw [List.drop_eq_nil_of_le hlength, List.append_nil]

/-- The bytes of a text are those of the array that is the text. -/
theorem encode_eq (text : String) : encode text = text.toByteArray.data.toList := by
  rw [encode, ByteArray.toList, toList_loop_eq]
  rfl

/-- A text is encoded character by character. -/
theorem encode_ofList (cs : List Char) :
    encode (String.ofList cs) = cs.flatMap String.utf8EncodeChar := by
  rw [encode_eq]
  exact List.toList_data_toByteArray

/-- The bytes of two texts in a row are those of the one text that they make. -/
theorem encode_append (first second : String) :
    encode (first ++ second) = encode first ++ encode second := by
  simp [encode_eq, String.toByteArray_append]

/-- The bytes of a text encode that text and no other. -/
theorem decode?_encode (text : String) : decode? (encode text) = some text := by
  have hbytes : (⟨(encode text).toArray⟩ : ByteArray) = text.toByteArray := by
    rw [encode_eq]
  rw [decode?, hbytes, String.fromUTF8?, dif_pos text.isValidUTF8]
  rfl

/-- Only a line feed has the byte of a line feed. -/
theorem eq_lineFeed_of_mem {c : Char} {byte : UInt8} (hmem : byte ∈ String.utf8EncodeChar c)
    (hbyte : isLineFeed byte = true) : c = '\n' := by
  have hten : byte.toNat = 10 := by
    rw [eq_of_beq hbyte]
    rfl
  have hc : c.val.toNat = 10 := by
    simp only [String.utf8EncodeChar] at hmem
    -- every byte of a longer encoding is at least 128
    split at hmem
    · rw [List.mem_singleton, ← UInt8.toNat_inj, hten, UInt8.toNat_ofNat'] at hmem
      omega
    · split at hmem
      · simp [← UInt8.toNat_inj, hten] at hmem
        omega
      · split at hmem <;> simp [← UInt8.toNat_inj, hten] at hmem <;> omega
  exact Char.ext (UInt32.toNat_inj.mp hc)

/-- The lines of the bytes of a text are the bytes of its lines. -/
theorem linesOf_encode (text : String) :
    Text.linesOf isLineFeed (encode text) =
      (Text.linesOf (· == '\n') text.toList).map fun line => encode (String.ofList line) := by
  have hlines : ∀ cs : List Char,
      Text.linesOf isLineFeed (cs.flatMap String.utf8EncodeChar) =
        (Text.linesOf (· == '\n') cs).map fun line => line.flatMap String.utf8EncodeChar := by
    intro cs
    induction cs with
    | nil => rfl
    | cons c cs ih =>
      rw [List.flatMap_cons, Text.linesOf_cons]
      by_cases hc : c = '\n'
      · subst hc
        have hfeed : String.utf8EncodeChar '\n' = [10] := by decide
        rw [hfeed, List.singleton_append, Text.linesOf_cons, ih]
        simp [Text.consLine, isLineFeed, hfeed]
      · have hbody : ∀ byte ∈ String.utf8EncodeChar c, isLineFeed byte = false := by
          intro byte hmem
          exact Bool.eq_false_iff.mpr fun hbyte => hc (eq_lineFeed_of_mem hmem hbyte)
        rw [Text.linesOf_append String.utf8EncodeChar_ne_nil hbody, ih]
        cases Text.linesOf (· == '\n') cs <;> simp [Text.consLine, hc]
  have htext := hlines text.toList
  simp only [← encode_ofList, String.ofList_toList] at htext
  exact htext

/-- A console on which lines of text are left to read. -/
def ofTexts (lines : List String) (written : List UInt8) : Console :=
  ⟨(lines.map encode).flatten, written, none⟩

/-- The lines of a text, each with its end. -/
def textLines (text : String) : List String :=
  (Text.linesOf (· == '\n') text.toList).map String.ofList

/-- To a console the lines of a text are lines. -/
theorem areLines_textLines (text : String) : AreLines ((textLines text).map encode) := by
  have hlines := areLines_linesOf (encode text)
  rw [linesOf_encode] at hlines
  simpa [textLines, Function.comp_def] using hlines

/-- A console that has lines to read has the text to read that they make. -/
theorem ofTexts_map_ofList (lines : List (List Char)) (written : List UInt8) :
    ofTexts (lines.map String.ofList) written =
      ⟨encode (String.ofList lines.flatten), written, none⟩ := by
  rw [ofTexts, encode_ofList, List.map_map]
  congr 1
  induction lines with
  | nil => rfl
  | cons line lines ih => simp [encode_ofList, ← ih]

/-- A console that has a text to read has its lines to read. -/
theorem ofTexts_textLines (text : String) (written : List UInt8) :
    ofTexts (textLines text) written = ⟨encode text, written, none⟩ := by
  rw [textLines, ofTexts_map_ofList, Text.flatten_linesOf, String.ofList_toList]

/-- Reading takes the first of the lines, if there is one. -/
theorem readLine_ofTexts {lines : List String} (hlines : AreLines (lines.map encode))
    (written : List UInt8) :
    (ofTexts lines written).readLine = (.ok lines.head?, ofTexts lines.tail written) ∧
      AreLines (lines.tail.map encode) := by
  cases lines with
  | nil => exact ⟨rfl, rfl⟩
  | cons line lines =>
    obtain ⟨hread, hbehind⟩ := readLine_lines hlines written none
    rw [decode?_encode] at hread
    exact ⟨hread, hbehind⟩

/-- Behind any number of lines there are lines left. -/
theorem areLines_drop {lines : List String} (hlines : AreLines (lines.map encode)) (n : Nat) :
    AreLines ((lines.drop n).map encode) := by
  induction n generalizing lines with
  | zero => exact hlines
  | succ n ih =>
    rw [← List.drop_tail]
    exact ih (readLine_ofTexts hlines []).2

end Console

end Calculator
