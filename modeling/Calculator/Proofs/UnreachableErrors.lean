import Calculator.Proofs.Consultation
import Calculator.Proofs.MachineErrors
import Calculator.Proofs.ScannedTokens

/-!
# Errors that never come up

The stages of a calculation guard one another. The brackets are checked before the conversion could
stumble over them, all variables have values before the evaluation could miss one, and whatever is
scanned as a number is a numeral.
-/

namespace Calculator

/-- An expression that was read from a text never fails at a literal, and fails for want of a value
only at a variable of its own that has none. -/
theorem Expression.error_of_value {text : String} {x : Expression} (hx : ofText text = .ok x)
    {b : Bindings} {e : EvalError} (h : x.value b = .error e) :
    (∀ literal, e ≠ .badLiteral literal) ∧
      ∀ name, e = .unboundVariable name → name ∈ x.variableNames ∧ b.get? name = none := by
  rcases StackMachine.error_of_evaluate h with hnode | hmisfit
  · cases hnode with
    | @literal literal hmem hnone =>
      have hsome := Token.isSome_parse?_of_mem_scan (mem_scan_of_mem_rpn hx hmem)
      rw [hnone] at hsome
      cases hsome
    | @unbound name hmem hnone =>
      refine ⟨by simp, ?_⟩
      rintro other heq
      cases heq
      have hname := Token.mem_variableNames.mpr (mem_scan_of_mem_rpn hx hmem)
      rw [← (ofText_eq_ok_iff.mp hx).1] at hname
      exact ⟨hname, hnone⟩
    | division => simp
    | root hnegative => simp
  · refine ⟨?_, ?_⟩
    · rintro literal rfl
      cases hmisfit
    · rintro name rfl
      cases hmisfit

/-- With a value for each of its variables, an expression does not fail for want of one. -/
theorem Expression.ne_unboundVariable {text : String} {x : Expression} (hx : ofText text = .ok x)
    {pairs : List (String × Float)} (hpairs : pairs.map Prod.fst = x.variableNames)
    {e : EvalError} (h : x.value (.ofList pairs) = .error e) (name : String) :
    e ≠ .unboundVariable name := by
  intro hunbound
  obtain ⟨hname, hnone⟩ := (error_of_value hx h).2 name hunbound
  rw [← hpairs] at hname
  obtain ⟨⟨_, value⟩, hmem, rfl⟩ := List.mem_map.mp hname
  have hnodup : (pairs.map Prod.fst).Nodup := by
    rw [hpairs]
    exact nodup_eraseDups _
  rw [(Bindings.get?_ofList hnodup _ value).mpr hmem] at hnone
  cases hnone

/-- Whatever its source answers, a calculation does not fail for an extra bracket, for want of a
value, or at a number: it is refused before any of this could be found out. With a table that does
not cover the variables, an expression can fail for want of a value, and for nothing else of this.
-/
theorem errors_never_reached (text : String) :
    (∀ (σ : Type) (source : ValueSource (StateT σ Id)) (state : σ) (e : Error),
      (Id.run ((calculate text source).run state)).1 = .error e →
        e ≠ .brackets .extraClosing ∧ e ≠ .brackets .extraOpening ∧
          (∀ name, e ≠ .evaluation (.unboundVariable name)) ∧
            ∀ literal, e ≠ .evaluation (.badLiteral literal)) ∧
    ∀ x, Expression.ofText text = .ok x → ∀ (b : Bindings) (e : EvalError), x.value b = .error e →
      (∀ literal, e ≠ .badLiteral literal) ∧
        ∀ name, e = .unboundVariable name → name ∈ x.variableNames ∧ b.get? name = none := by
  refine ⟨?_, fun x hx b e => Expression.error_of_value hx⟩
  intro σ source state error herror
  cases hx : Expression.ofText text with
  | error e =>
    obtain ⟨-, rfl⟩ := Expression.ofText_eq_error hx
    rw [calculate_eq, hx] at herror
    cases herror
    simp
  | ok x =>
    obtain ⟨answers, collected, last, hasked, hfor⟩ :=
      ValueSource.exists_asked source state x.variableNames
    rw [hasked.run_calculate hx hfor] at herror
    cases hfor with
    | refused =>
      cases herror
      simp
    | all pairs hpairs =>
      cases hvalue : x.value (.ofList pairs) with
      | ok value =>
        simp only [Expression.outcomeOf, hvalue] at herror
        cases herror
      | error e =>
        simp only [Expression.outcomeOf, hvalue] at herror
        cases herror
        have hliteral := (Expression.error_of_value hx hvalue).1
        have hbound := Expression.ne_unboundVariable hx hpairs hvalue
        simpa using ⟨hbound, hliteral⟩

/-- A division by the answer of a source, and the same without an answer. -/
theorem errors_of_division :
    let source : ValueSource (StateT Nat Id) := fun _ asked => (.ok 0.0, asked + 1)
    let x : Expression := ⟨[.number "1", .operator .div, .name "x"],
      [.number "1", .name "x", .operator .div]⟩
    (Id.run ((calculate "1 / x" source).run 0)).1 = .error (.evaluation .divisionByZero) ∧
      (∀ literal, Error.evaluation .divisionByZero ≠ .evaluation (.badLiteral literal)) ∧
      Expression.ofText "1 / x" = .ok x ∧ x.value .empty = .error (.unboundVariable "x") ∧
        "x" ∈ x.variableNames ∧ Bindings.empty.get? "x" = none := by
  intro source x
  have hx : Expression.ofText "1 / x" = .ok x := by
    rw [Expression.ofText, show Token.scan "1 / x" = x.tokens by decide +kernel]
    rfl
  have hrun : (Id.run ((calculate "1 / x" source).run 0)).1 =
      .error (.evaluation .divisionByZero) := by
    rw [calculate_eq, hx]
    rfl
  have hvalue : x.value .empty = .error (.unboundVariable "x") := rfl
  obtain ⟨hsource, htable⟩ := errors_never_reached "1 / x"
  obtain ⟨-, -, -, hliteral⟩ := hsource Nat source 0 _ hrun
  exact ⟨hrun, hliteral, hx, hvalue, (htable x hx .empty _ hvalue).2 "x" rfl⟩

end Calculator
