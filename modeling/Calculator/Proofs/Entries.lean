import Calculator.Proofs.Padding
import Calculator.Proofs.UnreachableErrors

/-!
# Bindings that are written down

A binding is read from a text by rules of its own: it is cut at its first equals sign, and both
sides are trimmed. The name is asked whether it can name a variable, which is a question about a
whole text; the variables of an expression are found by scanning. Still the names of bindings are
exactly the variables that expressions can have. A numeral has no blanks, so a binding may have any
around its name and around its numeral.
-/

namespace Calculator

open Lexical
open Text

/-- A name of a variable has only letters and digits. -/
theorem Lexical.alphanum_of_namesVariable {name : String} (h : namesVariable name = true) :
    ∀ c ∈ name.toList, c.isAlphanum = true := by
  rw [namesVariable, Bool.and_eq_true] at h
  exact isAlphanum_of_isWord h.1

namespace Expression

/-- A name of a variable is an expression with this variable. -/
theorem ofText_of_namesVariable {name : String} (h : namesVariable name = true) :
    ofText name = .ok ⟨[.name name], [.name name]⟩ := by
  rw [ofText, Token.scan_of_ofText? (Token.namesVariable_iff.mp h)]
  rfl

/-- The names of variables are the variables that expressions have. -/
theorem namesVariable_iff_mem_variableNames {name : String} :
    namesVariable name = true ↔
      ∃ text x, ofText text = .ok x ∧ name ∈ x.variableNames := by
  constructor
  · intro h
    exact ⟨name, _, ofText_of_namesVariable h, Token.mem_variableNames.mpr (by simp)⟩
  · rintro ⟨text, x, hx, hmem⟩
    rw [variableNames, Token.mem_variableNames, (ofText_eq_ok_iff.mp hx).1] at hmem
    exact Token.namesVariable_iff.mpr (Token.ofText?_of_mem_scan hmem)

/-- With a value for the one name that it consists of, an expression has this value. -/
theorem calculate_of_namesVariable {name : String} (h : namesVariable name = true)
    (value : Float) : Id.run (calculate name (.ofBindings (.ofList [(name, value)]))) =
      .ok value := by
  have hget : (Bindings.ofList [(name, value)]).get? name = some value := by
    simp [Bindings.ofList]
  have hrpn : Postfix.ofTokens (Token.scan name) = .ok [.name name] := by
    rw [Token.scan_of_ofText? (Token.namesVariable_iff.mp h)]
    rfl
  rw [calculate_of_bound hrpn]
  · simp [StackMachine.evaluate, StackMachine.run, StackMachine.step, StackMachine.variableValue,
      hget]
    rfl
  · intro other hmem
    rw [Token.scan_of_ofText? (Token.namesVariable_iff.mp h), List.mem_singleton] at hmem
    cases hmem
    rw [hget, Option.isSome_some]

end Expression

namespace Bindings

variable {text name : String} {value : Float}

/-- In the name of a variable with blanks around it, there are only blanks, letters and digits. -/
theorem isBlank_or_isAlphanum {left : String} (hname : namesVariable name = true)
    (h : Padded name left) {c : Char} (hc : c ∈ left.toList) :
    isBlank c = true ∨ c.isAlphanum = true :=
  (h.isBlank_or_mem hc).imp_right (alphanum_of_namesVariable hname c)

/-- A text that is read as a binding is cut at an equals sign into a name and a numeral. -/
theorem padded_of_parseEntry (h : parseEntry text = .ok (name, value)) :
    ∃ left right numeral, text = left ++ "=" ++ right ∧ Padded name left ∧
      Padded numeral right ∧ Number.parse? numeral = some value ∧ namesVariable name = true := by
  simp only [parseEntry] at h
  split at h
  · cases h
  · rename_i sign rest hrest
    split at h
    · rename_i hname
      split at h
      · rename_i number hnumber
        cases h
        have hsign := List.head?_dropWhile_not (fun c : Char => c != '=') text.toList
        rw [hrest] at hsign
        have hsplit := List.takeWhile_append_dropWhile (p := fun c : Char => c != '=')
          (l := text.toList)
        rw [hrest, show sign = '=' by simpa using hsign] at hsplit
        refine ⟨_, _, _, ?_, padded_trimChars _, padded_trimChars _, hnumber, hname⟩
        rw [← String.toList_inj]
        simp [hsplit]
      · cases h
    · cases h

/-- A name of a variable, an equals sign and a numeral are read as a binding, with any blanks around
the name and the numeral. -/
theorem parseEntry_of_padded {left right numeral : String} (hleft : Padded name left)
    (hright : Padded numeral right) (hvalue : Number.parse? numeral = some value)
    (hname : namesVariable name = true) :
    parseEntry (left ++ "=" ++ right) = .ok (name, value) := by
  -- the first equals sign is the one between the two, since there is none in the name
  have hbefore : ∀ c ∈ left.toList, (c != '=') = true := by
    intro c hc
    rw [bne_iff_ne]
    rintro rfl
    rcases isBlank_or_isAlphanum hname hleft hc with hblank | hletter
    · exact absurd hblank (by decide)
    · exact absurd hletter (by decide)
  have hstop : ∀ c ∈ ('=' :: right.toList).head?, (c != '=') = false := by simp
  have hchars : (left ++ "=" ++ right).toList = left.toList ++ '=' :: right.toList := by simp
  have hnameChars : trimChars left.toList = name.toList :=
    hleft.trimChars_eq (bare_of_visible fun c hc =>
      isBlank_of_isAlphanum (alphanum_of_namesVariable hname c hc))
  have hnumeralChars : trimChars right.toList = numeral.toList :=
    hright.trimChars_eq (bare_of_visible (Number.visible_of_parse? hvalue))
  simp only [parseEntry, hchars, takeWhile_append_stop hbefore hstop,
    dropWhile_append_stop hbefore hstop, hnameChars, hnumeralChars, String.ofList_toList, hname,
    hvalue, if_true]

/-- What is read as a binding is a name of a variable, an equals sign and a numeral, with blanks
around the name and the numeral. -/
theorem parseEntry_eq_ok_iff : parseEntry text = .ok (name, value) ↔
    ∃ left right numeral, text = left ++ "=" ++ right ∧ Padded name left ∧
      Padded numeral right ∧ Number.parse? numeral = some value ∧ namesVariable name = true := by
  constructor
  · exact padded_of_parseEntry
  · rintro ⟨left, right, numeral, rfl, hleft, hright, hvalue, hname⟩
    exact parseEntry_of_padded hleft hright hvalue hname

/-- A text that is not read as a binding is refused, and named in the refusal. -/
theorem parseEntry_eq_error {e : SourceError} (h : parseEntry text = .error e) :
    e = .invalidBinding text := by
  simp only [parseEntry] at h
  split at h
  · cases h
    rfl
  · split at h
    · split at h
      · cases h
      · cases h
        rfl
    · cases h
      rfl

end Bindings

open Bindings (parseEntry)

/-- Bindings reach exactly the variables that expressions can have. A text is read as a binding of a
variable of an expression and the number of a numeral, whatever blanks are around the two, and as
nothing else. The name that is read is by itself an expression with this one variable, and with the
binding it has the value of the numeral. Any other text is refused, and the refusal quotes it. -/
theorem parseEntry_reaches_variables (text : String) :
    (∀ name value, parseEntry text = .ok (name, value) ↔
      ∃ left right numeral, text = left ++ "=" ++ right ∧ Padded name left ∧
        Padded numeral right ∧ Number.parse? numeral = some value ∧
        ∃ source x, Expression.ofText source = .ok x ∧ name ∈ x.variableNames) ∧
    (∀ name value, parseEntry text = .ok (name, value) →
      (∃ x, Expression.ofText name = .ok x ∧ x.variableNames = [name]) ∧
        Id.run (calculate name (.ofBindings (.ofList [(name, value)]))) = .ok value) ∧
    ∀ e, parseEntry text = .error e → e = .invalidBinding text := by
  refine ⟨?_, ?_, fun e => Bindings.parseEntry_eq_error⟩
  · intro name value
    rw [Bindings.parseEntry_eq_ok_iff, Expression.namesVariable_iff_mem_variableNames]
  · intro name value hentry
    obtain ⟨-, -, -, -, -, -, -, hname⟩ := Bindings.padded_of_parseEntry hentry
    refine ⟨⟨_, Expression.ofText_of_namesVariable hname, ?_⟩,
      Expression.calculate_of_namesVariable hname value⟩
    simp [Expression.variableNames, Token.variableNames, Token.variableName?, List.eraseDups_cons]

/-- Blanks of several kinds around a variable and a numeral, and the name of a function. -/
theorem parseEntry_reaches_variable_of_sum :
    let text := "\u00a0x1\t= +2.5e1 "
    let x : Expression := ⟨[.number "2", .operator .add, .name "x1"],
      [.number "2", .name "x1", .operator .add]⟩
    Expression.ofText "2 + x 1" = .ok x ∧ "x1" ∈ x.variableNames ∧
      parseEntry text = .ok ("x1", 25.0) ∧
      Id.run (calculate "x1" (.ofBindings (.ofList [("x1", 25.0)]))) = .ok 25.0 ∧
      parseEntry "sqrt = 4" = .error (.invalidBinding "sqrt = 4") := by
  intro text x
  have hx : Expression.ofText "2 + x 1" = .ok x := by
    rw [Expression.ofText, show Token.scan "2 + x 1" = x.tokens by decide +kernel]
    rfl
  have hname : "x1" ∈ x.variableNames := by decide +kernel
  have hleft : Padded "x1" "\u00a0x1\t" := ⟨['\u00a0'], ['\t'],
    List.forall_mem_singleton.mpr (by decide), List.forall_mem_singleton.mpr (by decide), by decide⟩
  have hright : Padded "+2.5e1" " +2.5e1 " := ⟨[' '], [' '],
    List.forall_mem_singleton.mpr (by decide), List.forall_mem_singleton.mpr (by decide), by decide⟩
  have hvalue : Number.parse? "+2.5e1" = some 25.0 := by decide +kernel
  obtain ⟨hreads, hmeans, -⟩ := parseEntry_reaches_variables text
  obtain ⟨-, -, hrefused⟩ := parseEntry_reaches_variables "sqrt = 4"
  have hentry : parseEntry text = .ok ("x1", 25.0) :=
    (hreads _ _).mpr ⟨_, _, _, by decide, hleft, hright, hvalue, _, x, hx, hname⟩
  have hfunction : (parseEntry "sqrt = 4").isOk = false := by decide +kernel
  refine ⟨hx, hname, hentry, (hmeans _ _ hentry).2, ?_⟩
  cases hrefusal : parseEntry "sqrt = 4" with
  | ok entry =>
    rw [hrefusal] at hfunction
    cases hfunction
  | error e => rw [hrefused e hrefusal]

end Calculator
