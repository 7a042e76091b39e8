import Calculator.Proofs.Adjacency
import Calculator.Proofs.Grouping
import Calculator.Proofs.Outcome
import Calculator.Proofs.TreeErrors

/-!
# Which sequences have a value

Nothing looks at neighbouring tokens on the way to a value. What is malformed is found out only
when the stack machine runs short of values or has too many at the end. A value therefore proves
that juxtapositions and gaps are equally many, and where there are none, that the sequence is an
expression. Where one juxtaposition makes up for one gap, and where a function stands in front of
an argument without brackets, there may be a value outside the grammar.
-/

namespace Calculator

open Token Brackets

/-- A value proves that the brackets match and that juxtapositions and gaps are equally many. -/
theorem places_of_evaluate {tokens rpn : List Token} {b : Bindings} {value : Float}
    (hrpn : Postfix.ofTokens tokens = .ok rpn) (hvalue : StackMachine.evaluate b rpn = .ok value) :
    balanced tokens = true ∧ juxtapositions false tokens = gaps false tokens := by
  have hcount := operands_of_value hrpn hvalue
  have hplaces := operands_add_gaps false tokens
  simp only [Bool.toNat_false] at hplaces
  refine ⟨Postfix.balanced_of_ofTokens hrpn, ?_⟩
  omega

/-- Among sequences without juxtapositions and with brackets behind every function, exactly the
expressions can have a value: an expression is put into postfix order, and operands fit there; all
else is refused, or fails in the evaluation whatever its variables are. -/
theorem classification_of_separated {tokens : List Token}
    (hapart : tokens.IsChain fun first second => ¬ (first.endsOperand ∧ second.startsOperand))
    (hcalls : callsBracketed tokens = true) :
    (Grammatical tokens →
      ∃ rpn, Postfix.ofTokens tokens = .ok rpn ∧
        ∀ b e, StackMachine.evaluate b rpn = .error e → e.isMisfit = false) ∧
      (¬ Grammatical tokens →
        ∀ b, (∃ e, Postfix.ofTokens tokens = .error e) ∨
          ∃ rpn e, Postfix.ofTokens tokens = .ok rpn ∧
            StackMachine.evaluate b rpn = .error e) := by
  constructor
  · intro hgrammatical
    obtain ⟨t, ht⟩ := hgrammatical.exists_written
    refine ⟨t.postorder, Postfix.ofTokens_of_written ht, ?_⟩
    intro b e herror
    rw [Tree.evaluate_postorder] at herror
    exact Tree.isMisfit_of_value herror
  · intro hnot b
    cases hrpn : Postfix.ofTokens tokens with
    | error e => exact Or.inl ⟨e, rfl⟩
    | ok rpn =>
      right
      cases hvalue : StackMachine.evaluate b rpn with
      | error e => exact ⟨rpn, e, rfl, hvalue⟩
      | ok value =>
        -- a value leaves no gaps either, so the sequence is an expression after all
        obtain ⟨hbalanced, hplaces⟩ := places_of_evaluate hrpn hvalue
        have hjux := (juxtapositions_eq_zero_iff tokens).mpr hapart
        have hgap : gaps false tokens = 0 := by omega
        exact absurd (grammatical_iff.mpr ⟨⟨hbalanced, hjux, hgap⟩, hcalls⟩) hnot

/-- A call with a bracketed product in its argument is an expression; a sign in front of a group
is none, since the operator has no left operand. -/
theorem classification_of_call_and_sign :
    (∃ rpn, Postfix.ofTokens [.function .sqrt, .opening, .name "x", .operator .mul, .opening,
        .number "2", .closing, .closing] = .ok rpn ∧
      ∀ b e, StackMachine.evaluate b rpn = .error e → e.isMisfit = false) ∧
      ∀ b, (∃ e, Postfix.ofTokens [.operator .sub, .opening, .number "2", .closing] = .error e) ∨
        ∃ rpn e, Postfix.ofTokens [.operator .sub, .opening, .number "2", .closing] = .ok rpn ∧
          StackMachine.evaluate b rpn = .error e :=
  ⟨(classification_of_separated (by decide) (by decide)).1 (by decide),
    (classification_of_separated (by decide) (by decide)).2 (by decide)⟩

/-- A text with a value has matching brackets and as many juxtapositions as gaps. Without any of
them it is an expression, if functions may stand in front of arguments without brackets, and an
expression of the grammar if no function does. -/
theorem wellFormed_of_value {text : String} {b : Bindings} {value : Float}
    (hvalue : Id.run (calculate text (ValueSource.ofBindings b)) = .ok value) :
    balanced (Token.scan text) = true ∧
      juxtapositions false (Token.scan text) = gaps false (Token.scan text) ∧
      (juxtapositions false (Token.scan text) = 0 →
        LooselyGrammatical (Token.scan text) ∧
          (callsBracketed (Token.scan text) = true → Grammatical (Token.scan text))) := by
  obtain ⟨rpn, c, hrpn, hevaluate⟩ := evaluate_of_calculate hvalue
  obtain ⟨hbalanced, hplaces⟩ := places_of_evaluate hrpn hevaluate
  refine ⟨hbalanced, hplaces, ?_⟩
  intro hjux
  have hgap : gaps false (Token.scan text) = 0 := by omega
  refine ⟨looselyGrammatical_iff.mpr ⟨hbalanced, hjux, hgap⟩, ?_⟩
  intro hcalls
  exact grammatical_iff.mpr ⟨⟨hbalanced, hjux, hgap⟩, hcalls⟩

/-- The value of a sum times a variable shows that the text is an expression. -/
theorem wellFormed_of_product :
    Id.run (calculate "(a + b) * a"
        (ValueSource.ofBindings (.ofList [("a", 2.0), ("b", 3.0)]))) = .ok ((2.0 + 3.0) * 2.0) ∧
      Grammatical (Token.scan "(a + b) * a") := by
  have hscan : Token.scan "(a + b) * a" = [.opening, .name "a", .operator .add, .name "b",
      .closing, .operator .mul, .name "a"] := by decide +kernel
  have hrpn : Postfix.ofTokens (Token.scan "(a + b) * a") =
      .ok [.name "a", .name "b", .operator .add, .name "a", .operator .mul] := by rw [hscan]; rfl
  have hvalue : Id.run (calculate "(a + b) * a"
      (ValueSource.ofBindings (.ofList [("a", 2.0), ("b", 3.0)]))) =
        .ok ((2.0 + 3.0) * 2.0) := by
    rw [calculate_of_bound hrpn (by rw [hscan]; simp [Bindings.ofList])]
    rfl
  exact ⟨hvalue, ((wellFormed_of_value hvalue).2.2 (by decide +kernel)).2 (by decide +kernel)⟩

/-- Two operands side by side with an operator behind them have a value, and so has a function in
front of a variable without brackets, although the grammar has neither. -/
theorem value_of_ungrammatical :
    (Id.run (calculate "a_b+" (ValueSource.ofBindings (.ofList [("a", 2.0), ("b", 3.0)]))) =
        .ok (2.0 + 3.0) ∧
      ¬ Grammatical (Token.scan "a_b+")) ∧
      Id.run (calculate "sin_a" (ValueSource.ofBindings (.ofList [("a", 2.0)]))) =
          .ok (Float.sin 2.0) ∧
        ¬ Grammatical (Token.scan "sin_a") := by
  refine ⟨⟨?_, by decide +kernel⟩, ?_, by decide +kernel⟩
  · have hscan : Token.scan "a_b+" = [.name "a", .name "b", .operator .add] := by decide +kernel
    have hrpn : Postfix.ofTokens (Token.scan "a_b+") =
        .ok [.name "a", .name "b", .operator .add] := by rw [hscan]; rfl
    rw [calculate_of_bound hrpn (by rw [hscan]; simp [Bindings.ofList])]
    rfl
  · have hscan : Token.scan "sin_a" = [.function .sin, .name "a"] := by decide +kernel
    have hrpn : Postfix.ofTokens (Token.scan "sin_a") = .ok [.name "a", .function .sin] := by
      rw [hscan]; rfl
    rw [calculate_of_bound hrpn (by rw [hscan]; simp [Bindings.ofList])]
    rfl

end Calculator
