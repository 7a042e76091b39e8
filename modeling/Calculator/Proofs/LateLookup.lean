import Calculator.Proofs.Conservation
import Calculator.Proofs.UnreachableErrors

/-!
# Looking variables up before and during an evaluation

The values of all variables can be taken from a table before an evaluation starts, or each one when
the stack machine comes to it. If the table has them all, it makes no difference. If it has not,
both fail for the same variable: the first one without a value. The conversion to postfix order
leaves the variables in their order, so it is the first one that the machine comes to as well,
unless something else has failed before it.
-/

namespace Calculator

/-- The first of some names with a property is the first one without repetitions too. -/
theorem find?_eraseDups (names : List String) (p : String → Bool) :
    names.eraseDups.find? p = names.find? p := by
  induction names using eraseDups_induction with
  | nil => rfl
  | cons name names ih =>
    rw [List.eraseDups_cons, List.find?_cons, List.find?_cons]
    cases hname : p name with
    | true => rfl
    | false =>
      simp only [ih, List.find?_filter]
      congr 1
      funext other
      by_cases heq : other = name
      · simp [heq, hname]
      · simp [heq]

namespace ValueSource

variable {m : Type → Type} [Monad m]

/-- Only what a source answers for the names that it is asked for matters. -/
theorem collect_congr {source other : ValueSource m} {names : List String}
    (h : ∀ name ∈ names, source name = other name) (acc : Bindings) :
    source.collect acc names = other.collect acc names := by
  induction names generalizing acc with
  | nil => rfl
  | cons name names ih =>
    rw [List.forall_mem_cons] at h
    simp only [collect, h.1, ih h.2]

end ValueSource

namespace Expression

variable {text : String} {x : Expression}

/-- A table is asked for nothing but the variables of an expression. -/
theorem evaluateFrom_congr (x : Expression) {b c : Bindings}
    (h : ∀ name ∈ x.variableNames, b.get? name = c.get? name) :
    Id.run (x.evaluateFrom (.ofBindings b)) = Id.run (x.evaluateFrom (.ofBindings c)) := by
  have hsame : ∀ name ∈ x.variableNames,
      (ValueSource.ofBindings b : ValueSource Id) name = ValueSource.ofBindings c name := by
    intro name hname
    simp only [ValueSource.ofBindings, h name hname]
  rw [evaluateFrom_eq, evaluateFrom_eq, ValueSource.collect_congr hsame]

/-- In postfix order the variables stand as they were written. -/
theorem filterMap_variableName?_rpn (hx : ofText text = .ok x) :
    x.rpn.filterMap Token.variableName? = x.tokens.filterMap Token.variableName? := by
  obtain ⟨htokens, hrpn⟩ := ofText_eq_ok_iff.mp hx
  have hoperands : ∀ tokens : List Token, tokens.filterMap Token.variableName? =
      (tokens.filter Token.isOperand).filterMap Token.variableName? := by
    intro tokens
    rw [List.filterMap_filter]
    congr 1
    funext token
    cases token <;> rfl
  rw [hoperands, Postfix.filter_isOperand_of_ofTokens hrpn, ← hoperands, htokens]

/-- The first variable without a value is the first one without a value in postfix order. -/
theorem exists_first_missing (hx : ofText text = .ok x) {b : Bindings} {name : String}
    (hmissing : x.variableNames.find? (fun name => (b.get? name).isNone) = some name) :
    b.get? name = none ∧
      ∃ front behind, x.rpn = front ++ .name name :: behind ∧
        ∀ other, .name other ∈ front → (b.get? other).isSome = true := by
  rw [variableNames, Token.variableNames, find?_eraseDups, ← filterMap_variableName?_rpn hx,
    List.find?_filterMap, Option.bind_eq_some_iff] at hmissing
  obtain ⟨token, hfind, hname⟩ := hmissing
  obtain ⟨hnone, front, behind, hrpn, hfront⟩ := List.find?_eq_some_iff_append.mp hfind
  cases token with
  | name n =>
    cases hname
    refine ⟨by simpa [Token.variableName?] using hnone, front, behind, hrpn, ?_⟩
    intro other hmem
    have hbound := hfront _ hmem
    rw [Bool.not_eq_true'] at hbound
    simpa [Token.variableName?] using hbound
  | _ => cases hname

end Expression

namespace StackMachine

/-- At a variable without a value an evaluation fails, unless it has failed before. -/
theorem evaluate_of_missing {b : Bindings} {name : String} (hnone : b.get? name = none)
    (front behind : List Token) :
    evaluate b (front ++ .name name :: behind) = (do
      let _ ← run b [] front
      throw (.unboundVariable name)) := by
  rw [evaluate, run_append]
  cases run b [] front with
  | error e => rfl
  | ok stack => simp [run, step, variableValue, hnone]

end StackMachine

/-- What can fail in front of the first variable without a value is a division, a root, an operator
or a function. -/
theorem Expression.error_of_run {text : String} {x : Expression} (hx : ofText text = .ok x)
    {b : Bindings} {front behind : List Token} (hrpn : x.rpn = front ++ behind)
    (hbound : ∀ other, .name other ∈ front → (b.get? other).isSome = true) {e : EvalError}
    (h : StackMachine.run b [] front = .error e) :
    e = .divisionByZero ∨ (∃ value, e = .negativeRoot value) ∨ (∃ op, e = .missingOperand op) ∨
      ∃ f, e = .missingArgument f := by
  obtain ⟨token, hmem, values, hfails⟩ := StackMachine.exists_fails_of_run h
  cases hfails with
  | literal hnone =>
    have hscan := mem_scan_of_mem_rpn hx (hrpn ▸ List.mem_append_left behind hmem)
    have hsome := Token.isSome_parse?_of_mem_scan hscan
    rw [hnone] at hsome
    cases hsome
  | unbound hnone =>
    have hsome := hbound _ hmem
    rw [hnone] at hsome
    cases hsome
  | missingOperand op => exact Or.inr (Or.inr (Or.inl ⟨op, rfl⟩))
  | division => exact Or.inl rfl
  | missingArgument f => exact Or.inr (Or.inr (Or.inr ⟨f, rfl⟩))
  | root => exact Or.inr (Or.inl ⟨_, rfl⟩)

/-- Whether the values of an expression are taken from a table before the evaluation or during it,
only those of its variables matter, and if all of them are there, the outcome is the same. Otherwise
the first one that is missing is refused before the evaluation. During the evaluation the same one
has no value, unless a division, a root, an operator or a function fails in front of it, where all
variables have values; in no case is there a value, or a number of values left at the end. -/
theorem binding_agrees_with_lookup {text : String} {x : Expression}
    (hx : Expression.ofText text = .ok x) (b : Bindings) :
    (∀ c : Bindings, (∀ name ∈ x.variableNames, c.get? name = b.get? name) →
      Id.run (x.evaluateFrom (.ofBindings c)) = Id.run (x.evaluateFrom (.ofBindings b)) ∧
        x.value c = x.value b) ∧
    ((∀ name ∈ x.variableNames, (b.get? name).isSome = true) →
      Id.run (x.evaluateFrom (.ofBindings b)) = (x.value b).mapError .evaluation) ∧
    ∀ name, x.variableNames.find? (fun name => (b.get? name).isNone) = some name →
      Id.run (x.evaluateFrom (.ofBindings b)) = .error (.source (.unbound name)) ∧
      (x.value b = .error (.unboundVariable name) ∨
        ∃ front behind e, x.rpn = front ++ .name name :: behind ∧
          (∀ other, .name other ∈ front → (b.get? other).isSome = true) ∧
          StackMachine.run b [] front = .error e ∧ x.value b = .error e ∧
          (e = .divisionByZero ∨ (∃ value, e = .negativeRoot value) ∨
            (∃ op, e = .missingOperand op) ∨ ∃ f, e = .missingArgument f)) := by
  refine ⟨?_, Expression.evaluateFrom_of_bound hx, ?_⟩
  · intro c hagree
    exact ⟨x.evaluateFrom_congr hagree, Expression.value_congr hx hagree⟩
  · intro name hmissing
    refine ⟨x.evaluateFrom_of_unknown hmissing, ?_⟩
    obtain ⟨hnone, front, behind, hrpn, hbound⟩ := Expression.exists_first_missing hx hmissing
    have hvalue := StackMachine.evaluate_of_missing hnone front behind
    rw [← hrpn, ← Expression.value] at hvalue
    cases hrun : StackMachine.run b [] front with
    | ok stack =>
      left
      rw [hvalue, hrun]
      rfl
    | error e =>
      right
      have hfailed : x.value b = .error e := by
        rw [hvalue, hrun]
        rfl
      have hkind := Expression.error_of_run hx hrpn hbound hrun
      exact ⟨front, behind, e, hrpn, hbound, hrun, hfailed, hkind⟩

/-- A division by zero in front of the two variables that have no value: taken before the evaluation
the first of them is refused, during it the division fails. -/
theorem binding_agrees_with_lookup_of_quotient :
    let x : Expression := ⟨[.name "a", .operator .div, .opening, .name "b", .operator .sub,
      .name "b", .closing, .operator .add, .name "c", .operator .mul, .name "d"],
      [.name "a", .name "b", .name "b", .operator .sub, .operator .div, .name "c", .name "d",
        .operator .mul, .operator .add]⟩
    let few := Bindings.ofList [("a", 1.0), ("b", 2.0)]
    let other := Bindings.ofList [("z", 5.0), ("b", 2.0), ("a", 1.0)]
    let all := Bindings.ofList [("a", 1.0), ("b", 2.0), ("c", 3.0), ("d", 4.0)]
    Expression.ofText "a / (b - b) + c * d" = .ok x ∧
      (∀ name ∈ x.variableNames, other.get? name = few.get? name) ∧ x.value other = x.value few ∧
      (∀ name ∈ x.variableNames, (all.get? name).isSome = true) ∧
      Id.run (x.evaluateFrom (.ofBindings all)) = .error (.evaluation .divisionByZero) ∧
      x.variableNames.find? (fun name => (few.get? name).isNone) = some "c" ∧
      Id.run (x.evaluateFrom (.ofBindings few)) = .error (.source (.unbound "c")) ∧
      x.value few = .error .divisionByZero := by
  intro x few other all
  have hx : Expression.ofText "a / (b - b) + c * d" = .ok x := by
    rw [Expression.ofText, show Token.scan "a / (b - b) + c * d" = x.tokens by decide +kernel]
    rfl
  have hagree : ∀ name ∈ x.variableNames, other.get? name = few.get? name := by decide +kernel
  have hbound : ∀ name ∈ x.variableNames, (all.get? name).isSome = true := by decide +kernel
  have hmissing : x.variableNames.find? (fun name => (few.get? name).isNone) = some "c" := by
    decide +kernel
  obtain ⟨hothers, -, hfew⟩ := binding_agrees_with_lookup hx few
  obtain ⟨-, hall, -⟩ := binding_agrees_with_lookup hx all
  exact ⟨hx, hagree, (hothers other hagree).2, hbound, hall hbound, hmissing,
    (hfew "c" hmissing).1, rfl⟩

end Calculator
