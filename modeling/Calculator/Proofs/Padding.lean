import Calculator.Proofs.Recognition
import Mathlib.Data.List.DropRight

/-!
# Blanks around texts

A line, an answer and both sides of a binding may have any blanks around what they say. Trimming
finds what that is: the one text without a blank at either end that is the whole with blanks around
it. Tokens are the same with and without these blanks, and a numeral has none inside.
-/

namespace Calculator

namespace Text

/-- A text with any blanks in front of it and behind it. -/
def Padded (inner outer : String) : Prop :=
  ∃ front behind : List Char, (∀ c ∈ front, isBlank c = true) ∧ (∀ c ∈ behind, isBlank c = true) ∧
    outer.toList = front ++ inner.toList ++ behind

/-- A text with no blank at either end. -/
def Bare (text : String) : Prop :=
  (∀ c ∈ text.toList.head?, isBlank c = false) ∧ ∀ c ∈ text.toList.getLast?, isBlank c = false

/-- A text without any blank has none at its ends. -/
theorem bare_of_visible {text : String} (h : ∀ c ∈ text.toList, isBlank c = false) : Bare text :=
  ⟨fun c hc => h c (List.mem_of_mem_head? hc), fun c hc => h c (List.mem_of_mem_getLast? hc)⟩

/-- What stands in a text with blanks around it is blank, or stands in the text. -/
theorem Padded.isBlank_or_mem {inner outer : String} (h : Padded inner outer) {c : Char}
    (hc : c ∈ outer.toList) : isBlank c = true ∨ c ∈ inner.toList := by
  obtain ⟨front, behind, hfront, hbehind, houter⟩ := h
  rw [houter, List.mem_append, List.mem_append] at hc
  rcases hc with (hmem | hmem) | hmem
  · exact Or.inl (hfront c hmem)
  · exact Or.inr hmem
  · exact Or.inl (hbehind c hmem)

/-- The blanks around a text are stripped like those inside it. -/
theorem Padded.strip_eq {inner outer : String} (h : Padded inner outer) :
    strip outer = strip inner := by
  obtain ⟨front, behind, hfront, hbehind, houter⟩ := h
  have hnone : ∀ {cs : List Char}, (∀ c ∈ cs, isBlank c = true) →
      cs.filter (fun c => !isBlank c) = [] := by
    intro cs hcs
    exact List.filter_eq_nil_iff.mpr fun c hc => by simp [hcs c hc]
  rw [strip, strip, houter, List.filter_append, List.filter_append, hnone hfront, hnone hbehind,
    List.nil_append, List.append_nil]

/-- The first character that is not blank is that of the text inside the blanks. -/
theorem Padded.find?_visible {inner outer : String} (h : Padded inner outer) (hbare : Bare inner) :
    outer.toList.find? (fun c => !isBlank c) = inner.toList.head? := by
  have hvisible : outer.toList.filter (fun c => !isBlank c) =
      inner.toList.filter fun c => !isBlank c := h.strip_eq
  rw [← List.head?_filter, hvisible]
  cases hinner : inner.toList with
  | nil => rfl
  | cons c cs =>
    have hfirst : isBlank c = false := hbare.1 c (by simp [hinner])
    simp [hfirst]

/-- Trimming takes the blanks around a text away, if it has none at its own ends. -/
theorem Padded.trimChars_eq {inner outer : String} (h : Padded inner outer) (hbare : Bare inner) :
    trimChars outer.toList = inner.toList := by
  obtain ⟨front, behind, hfront, hbehind, houter⟩ := h
  have hback : ∀ c ∈ behind.reverse, isBlank c = true := by simpa using hbehind
  have hlast : ∀ c ∈ inner.toList.reverse.head?, isBlank c = false := by
    rw [List.head?_reverse]
    exact hbare.2
  rw [houter, trimChars, List.append_assoc]
  cases hinner : inner.toList with
  | nil =>
    -- the blanks in front and behind are one run of blanks
    have hall : ∀ c ∈ front ++ ([] ++ behind), isBlank c = true := by
      simpa [or_imp, forall_and] using ⟨hfront, hbehind⟩
    rw [List.dropWhile_eq_nil_iff.mpr hall]
    rfl
  | cons first others =>
    have hstop : ∀ c ∈ (first :: others ++ behind).head?, isBlank c = false := by
      simpa [hinner] using hbare.1
    rw [hinner] at hlast
    rw [Lexical.dropWhile_append_stop hfront hstop, List.reverse_append,
      Lexical.dropWhile_append_stop hback hlast, List.reverse_reverse]

/-- A trimmed text is the only one with no blank at its ends that is the whole with blanks around
it. -/
theorem Padded.trim_eq {inner outer : String} (h : Padded inner outer) (hbare : Bare inner) :
    trim outer = inner := by
  rw [trim, h.trimChars_eq hbare, String.ofList_toList]

/-- A text is what is left of it when it is trimmed, with the blanks around that. -/
theorem padded_trimChars (cs : List Char) :
    Padded (String.ofList (trimChars cs)) (String.ofList cs) := by
  have hfront := List.takeWhile_append_dropWhile (p := isBlank) (l := cs)
  have hbehind := List.takeWhile_append_dropWhile (p := isBlank)
    (l := (cs.dropWhile isBlank).reverse)
  refine ⟨cs.takeWhile isBlank, ((cs.dropWhile isBlank).reverse.takeWhile isBlank).reverse,
    fun c hc => List.mem_takeWhile_imp hc,
    fun c hc => List.mem_takeWhile_imp (List.mem_reverse.mp hc), ?_⟩
  simp only [String.toList_ofList, trimChars]
  rw [List.append_assoc, ← List.reverse_append, hbehind, List.reverse_reverse, hfront]

theorem padded_trim (text : String) : Padded (trim text) text := by
  simpa [trim] using padded_trimChars text.toList

/-- No blank is left at the ends of a trimmed text. -/
theorem bare_trim (text : String) : Bare (trim text) := by
  have hhead : ∀ cs : List Char, ∀ c ∈ (cs.dropWhile isBlank).head?, isBlank c = false := by
    intro cs c hc
    have hnot := List.head?_dropWhile_not isBlank cs
    rwa [Option.mem_def.mp hc] at hnot
  constructor
  · intro c hc
    rw [trim, String.toList_ofList] at hc
    -- the first character is that of the text without the blanks in front
    have hfront : trimChars text.toList <+: text.toList.dropWhile isBlank :=
      List.rdropWhile_prefix isBlank (text.toList.dropWhile isBlank)
    obtain ⟨behind, hsplit⟩ := hfront
    have hfirst := hhead text.toList c
    rw [← hsplit, List.head?_append, Option.mem_def.mp hc] at hfirst
    exact hfirst rfl
  · intro c hc
    rw [trim, String.toList_ofList, trimChars, List.getLast?_reverse] at hc
    exact hhead _ c hc

/-- What is read of a line behind its blanks is the beginning of the trimmed line. -/
theorem head?_trim (line : String) :
    (trim line).toList.head? = line.toList.find? fun c => !isBlank c :=
  ((padded_trim line).find?_visible (bare_trim line)).symm

/-- Nothing is left of a line of blanks, and of no other. -/
theorem isEmpty_trim (line : String) : (trim line).isEmpty = line.toList.all isBlank := by
  have hhead := head?_trim line
  rw [Bool.eq_iff_iff, List.all_eq_true, String.isEmpty_iff]
  constructor
  · intro hempty
    rw [hempty] at hhead
    intro c hc
    simpa using List.find?_eq_none.mp hhead.symm c hc
  · intro hall
    rw [List.find?_eq_none.mpr (by simpa using hall), List.head?_eq_none_iff] at hhead
    exact String.toList_inj.mp hhead

/-- Trimming takes nothing but blanks away. -/
theorem strip_trim (text : String) : strip (trim text) = strip text :=
  (padded_trim text).strip_eq.symm

/-- A blank has no letter case. -/
theorem toLower_of_isBlank {c : Char} (h : isBlank c = true) : c.toLower = c := by
  apply dif_neg
  rintro ⟨hlow, hhigh⟩
  have hletter : c.isAlpha = true := isAlpha_iff.mpr (Or.inl ⟨hlow, hhigh⟩)
  rw [isBlank_of_isAlphanum (by simp [Char.isAlphanum, hletter])] at h
  cases h

/-- A digit is not blank. -/
theorem isBlank_of_isDigit {c : Char} (h : c.isDigit = true) : isBlank c = false :=
  isBlank_of_isAlphanum (by simp [Char.isAlphanum, h])

end Text

/-- A trimmed text has the same tokens. -/
theorem Token.scan_trim (text : String) : scan (Text.trim text) = scan text := by
  rw [scan, scan, Piece.ofText, Piece.ofText, Text.strip_trim]

/-- A trimmed text is the same expression. -/
theorem Expression.ofText_trim (text : String) : ofText (Text.trim text) = ofText text := by
  rw [ofText, Token.scan_trim, ofText]

open Text

namespace Numeral

/-- A character of a text is behind the sign, or is the sign. -/
theorem mem_takeSign {cs : List Char} {c : Char} (h : c ∈ cs) :
    c ∈ (takeSign cs).2 ∨ c = '-' ∨ c = '+' := by
  unfold takeSign
  split
  · rcases List.mem_cons.mp h with hsign | hbehind
    · exact Or.inr (Or.inl hsign)
    · exact Or.inl hbehind
  · rcases List.mem_cons.mp h with hsign | hbehind
    · exact Or.inr (Or.inr hsign)
    · exact Or.inl hbehind
  · exact Or.inl h

/-- There is no blank in an exponent. -/
theorem isBlank_of_exponent? {cs : List Char} (h : (exponent? cs).isSome = true) :
    ∀ c ∈ cs, isBlank c = false := by
  cases cs with
  | nil => simp
  | cons mark cs =>
    simp only [exponent?] at h
    split at h
    · rename_i hexponent
      simp only [Bool.and_eq_true, List.all_eq_true] at hexponent
      obtain ⟨⟨hmark, -⟩, hdigits⟩ := hexponent
      rw [List.forall_mem_cons]
      constructor
      · rw [← Bool.not_eq_true]
        intro hblank
        rw [toLower_of_isBlank hblank] at hmark
        rw [eq_of_beq hmark] at hblank
        exact absurd hblank (by decide)
      · intro c hc
        rcases mem_takeSign hc with hmem | rfl | rfl
        · exact isBlank_of_isDigit (hdigits c hmem)
        · decide
        · decide
    · cases h

/-- There is no blank in a decimal fraction. -/
theorem isBlank_of_decimal? {cs : List Char} (h : (decimal? cs).isSome = true) :
    ∀ c ∈ cs, isBlank c = false := by
  have hdigit : ∀ {digits : List Char}, ∀ c ∈ digits.takeWhile Char.isDigit, isBlank c = false :=
    fun c hc => isBlank_of_isDigit (List.mem_takeWhile_imp hc)
  have hexponent : ∀ {p : Bool} {f : Int → Decimal} {rest : List Char},
      (if p then none else (exponent? rest).map f).isSome = true →
        ∀ c ∈ rest, isBlank c = false := by
    intro p f rest hsome
    cases p with
    | true => cases hsome
    | false => exact isBlank_of_exponent? (by simpa using hsome)
  have hwhole := List.takeWhile_append_dropWhile (p := Char.isDigit) (l := cs)
  intro c hc
  rw [← hwhole, List.mem_append] at hc
  rcases hc with hfirst | hbehind
  · exact hdigit c hfirst
  · simp only [decimal?] at h
    split at h
    · rename_i rest heq
      have hfraction := List.takeWhile_append_dropWhile (p := Char.isDigit) (l := rest)
      rw [heq, ← hfraction, List.mem_cons, List.mem_append] at hbehind
      rcases hbehind with rfl | hfirst | hlast
      · decide
      · exact hdigit c hfirst
      · exact hexponent h c hlast
    · exact hexponent h c hbehind

/-- There is no blank in what a word for a number is written like. -/
theorem isBlank_of_map_toLower {cs word : List Char} (h : cs.map Char.toLower = word)
    (hword : word.any isBlank = false) : ∀ c ∈ cs, isBlank c = false := by
  intro c hc
  rw [← Bool.not_eq_true]
  intro hblank
  have hlower := List.any_eq_false.mp hword c.toLower (h ▸ List.mem_map_of_mem hc)
  rw [toLower_of_isBlank hblank] at hlower
  exact hlower hblank

/-- There is no blank in a numeral. -/
theorem isBlank_of_unsigned? {cs : List Char} (h : (unsigned? cs).isSome = true) :
    ∀ c ∈ cs, isBlank c = false := by
  unfold unsigned? at h
  split at h
  · rename_i heq
    exact isBlank_of_map_toLower heq (by decide)
  · rename_i heq
    exact isBlank_of_map_toLower heq (by decide)
  · rename_i heq
    exact isBlank_of_map_toLower heq (by decide)
  · rw [Option.isSome_map] at h
    exact isBlank_of_decimal? h

end Numeral

/-- A text that is read as a number has no blanks. -/
theorem Number.visible_of_parse? {text : String} {value : Float} (h : parse? text = some value) :
    ∀ c ∈ text.toList, isBlank c = false := by
  have hsome : (parse? text).isSome = true := by rw [h, Option.isSome_some]
  simp only [parse?, Option.isSome_map] at hsome
  intro c hc
  rcases Numeral.mem_takeSign hc with hmem | rfl | rfl
  · exact Numeral.isBlank_of_unsigned? hsome c hmem
  · decide
  · decide

end Calculator
