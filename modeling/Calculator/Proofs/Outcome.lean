import Calculator.Calculation
import Calculator.Proofs.BracketDepth
import Calculator.Proofs.OperandCount

/-!
# The outcome of a calculation

With no journal and a table of values as the source, a calculation is a plain function: the
brackets are checked, the variables are looked up, and the postfix order is evaluated. Only the
values of names that occur matter to it.
-/

namespace Calculator

namespace Expression

open Brackets

/-- A text is read as an expression exactly if its tokens can be put into postfix order. -/
theorem ofText_eq_ok_iff {text : String} {x : Expression} :
    ofText text = .ok x ↔
      x.tokens = Token.scan text ∧ Postfix.ofTokens (Token.scan text) = .ok x.rpn := by
  simp only [ofText, ofTokens, Except.bind_eq_ok_iff]
  constructor
  · rintro ⟨-, -, rpn, hrpn, hx⟩
    cases hx
    exact ⟨rfl, hrpn⟩
  · rintro ⟨htokens, hrpn⟩
    have hcheck : check (Token.scan text) = .ok () := by
      simp [check, Postfix.balanced_of_ofTokens hrpn]
    exact ⟨(), hcheck, x.rpn, hrpn, by rw [← htokens]; rfl⟩

/-- A text is refused only for brackets that do not match. -/
theorem ofText_eq_error {text : String} {e : BracketError} (h : ofText text = .error e) :
    balanced (Token.scan text) = false ∧ e = .unbalanced := by
  by_cases hdepth : depthAfter? 0 (Token.scan text) = some 0
  · have houtcome := Postfix.ofTokens_of_depth (Token.scan text)
    rw [hdepth] at houtcome
    obtain ⟨rpn, hrpn⟩ := houtcome
    have hok : ofText text = .ok ⟨Token.scan text, rpn⟩ := ofText_eq_ok_iff.mpr ⟨rfl, hrpn⟩
    cases hok.symm.trans h
  · refine ⟨by simp [balanced, hdepth], ?_⟩
    rw [ofText, ofTokens, check_eq_error hdepth] at h
    cases h
    rfl

end Expression

namespace ValueSource

variable {m : Type → Type} [Monad m] [LawfulMonad m]

/-- A table that knows all names answers with its own values. -/
theorem collect_of_bound {b : Bindings} {names : List String} (acc : Bindings)
    (hbound : ∀ name ∈ names, (b.get? name).isSome) :
    ∃ c : Bindings, collect (ofBindings b : ValueSource m) acc names = pure (.ok c) ∧
      ∀ name, c.get? name = if name ∈ names then b.get? name else acc.get? name := by
  induction names generalizing acc with
  | nil => exact ⟨acc, rfl, by simp⟩
  | cons name names ih =>
    obtain ⟨value, hvalue⟩ := Option.isSome_iff_exists.mp (hbound name (List.mem_cons_self ..))
    obtain ⟨c, hcollect, hc⟩ := ih (acc.insert name value)
      fun other hother => hbound other (List.mem_cons_of_mem _ hother)
    refine ⟨c, by simpa [collect, ofBindings, hvalue] using hcollect, ?_⟩
    intro other
    rw [hc other, Bindings.get?_insert]
    by_cases heq : other = name
    · simp [heq, hvalue]
    · simp [heq]

/-- A table refuses the first name that it does not know. -/
theorem collect_of_unknown {b : Bindings} {names : List String} {name : String}
    {others : List String} (acc : Bindings)
    (hunknown : names.filter (fun name => (b.get? name).isNone) = name :: others) :
    (collect (ofBindings b) acc names : m _) = pure (.error (.unbound name)) := by
  induction names generalizing acc with
  | nil => cases hunknown
  | cons first names ih =>
    cases hvalue : b.get? first with
    | some value =>
      rw [List.filter_cons_of_neg (by simp [hvalue])] at hunknown
      simpa [collect, ofBindings, hvalue] using ih (acc.insert first value) hunknown
    | none =>
      rw [List.filter_cons_of_pos (by simp [hvalue]), List.cons.injEq] at hunknown
      rw [hunknown.1] at hvalue
      simp [collect, ofBindings, hunknown.1, hvalue]

end ValueSource

namespace StackMachine

/-- Only the values of names that occur matter to a run. -/
theorem run_congr {b c : Bindings} {tokens : List Token} (stack : List Float)
    (h : ∀ name, .name name ∈ tokens → b.get? name = c.get? name) :
    run b stack tokens = run c stack tokens := by
  induction tokens generalizing stack with
  | nil => rfl
  | cons token tokens ih =>
    have hstep : step b stack token = step c stack token := by
      cases token with
      | name n => simp only [step, variableValue, h n (List.mem_cons_self ..)]
      | _ => rfl
    simp only [run, List.foldlM_cons, hstep]
    congr 1
    funext middle
    exact ih middle fun name hname => h name (List.mem_cons_of_mem _ hname)

/-- Only the values of names that occur matter to an evaluation. -/
theorem evaluate_congr {b c : Bindings} {rpn : List Token}
    (h : ∀ name, .name name ∈ rpn → b.get? name = c.get? name) :
    evaluate b rpn = evaluate c rpn := by
  simp only [evaluate, run_congr [] h]

end StackMachine

/-- The variables of a sequence are the names that occur in it. -/
theorem Token.mem_variableNames {tokens : List Token} {name : String} :
    name ∈ variableNames tokens ↔ .name name ∈ tokens := by
  rw [variableNames, List.mem_eraseDups, List.mem_filterMap]
  constructor
  · rintro ⟨token, hmem, hname⟩
    cases token with
    | name n => cases hname; exact hmem
    | _ => cases hname
  · intro hmem
    exact ⟨_, hmem, rfl⟩

/-- Where tables agree on the variables of an expression, it has the same value. -/
theorem Expression.value_congr {text : String} {x : Expression} {b c : Bindings}
    (hx : ofText text = .ok x) (h : ∀ name ∈ x.variableNames, b.get? name = c.get? name) :
    x.value b = x.value c := by
  obtain ⟨htokens, hrpn⟩ := ofText_eq_ok_iff.mp hx
  apply StackMachine.evaluate_congr
  intro name hname
  apply h
  have hmem : .name name ∈ Token.unbracketed (Token.scan text) :=
    (Postfix.perm_of_ofTokens hrpn).mem_iff.mp hname
  rw [variableNames, htokens, Token.mem_variableNames]
  exact (List.mem_filter.mp hmem).1

section Outcome

variable {m : Type → Type} [Monad m] [LawfulMonad m] [Journal m] [QuietJournal m]

/-- Where nothing is written, the values are collected and then the evaluation starts. -/
theorem Expression.evaluateFrom_eq (x : Expression) (source : ValueSource m) :
    x.evaluateFrom source = (do
      match ← source.collect .empty x.variableNames with
      | .error e => return .error (.source e)
      | .ok b => return (x.value b).mapError .evaluation) := by
  simp only [evaluateFrom, bindFrom, bind_assoc]
  congr 1
  funext answer
  cases answer with
  | error e => simp
  | ok b => simp [QuietJournal.note_eq, Noted.evaluate_eq, Expression.value]

/-- Where nothing is written, the text is read and then the expression is evaluated. -/
theorem calculate_eq (text : String) (source : ValueSource m) :
    calculate text source =
      match Expression.ofText text with
      | .error e => pure (.error (.brackets e))
      | .ok x => x.evaluateFrom source := by
  cases htext : Expression.ofText text with
  | error e => simp only [calculate, Noted.read_eq, htext, pure_bind]
  | ok x => simp only [calculate, Noted.read_eq, htext, pure_bind]

/-- With a table that knows all its variables, an expression comes to its value. -/
theorem Expression.evaluateFrom_of_bound {text : String} {x : Expression} (hx : ofText text = .ok x)
    {b : Bindings} (hbound : ∀ name ∈ x.variableNames, (b.get? name).isSome) :
    (x.evaluateFrom (ValueSource.ofBindings b) : m _) =
      pure ((x.value b).mapError .evaluation) := by
  obtain ⟨c, hcollect, hc⟩ := ValueSource.collect_of_bound (m := m) .empty hbound
  have hvalue : x.value c = x.value b :=
    value_congr hx fun name hname => by rw [hc, if_pos hname]
  simp only [evaluateFrom_eq, hcollect, pure_bind, hvalue]

/-- With a table that does not, it comes to the refusal of the first one that is missing. -/
theorem Expression.evaluateFrom_of_unknown (x : Expression) {b : Bindings} {name : String}
    (hunknown : x.variableNames.find? (fun name => (b.get? name).isNone) = some name) :
    (x.evaluateFrom (ValueSource.ofBindings b) : m _) =
      pure (.error (.source (.unbound name))) := by
  rw [← List.head?_filter, List.head?_eq_some_iff] at hunknown
  obtain ⟨others, hunknown⟩ := hunknown
  simp only [evaluateFrom_eq, ValueSource.collect_of_unknown .empty hunknown, pure_bind]

/-- A calculation with a table that knows all variables is the evaluation of the postfix order. -/
theorem calculate_of_bound {text : String} {rpn : List Token} {b : Bindings}
    (hrpn : Postfix.ofTokens (Token.scan text) = .ok rpn)
    (hbound : ∀ name, .name name ∈ Token.scan text → (b.get? name).isSome) :
    (calculate text (ValueSource.ofBindings b) : m _) =
      pure ((StackMachine.evaluate b rpn).mapError .evaluation) := by
  have hx : Expression.ofText text = .ok ⟨Token.scan text, rpn⟩ :=
    Expression.ofText_eq_ok_iff.mpr ⟨rfl, hrpn⟩
  rw [calculate_eq, hx]
  exact Expression.evaluateFrom_of_bound hx fun name hname =>
    hbound name (Token.mem_variableNames.mp hname)

end Outcome

/-- A calculation with a value has evaluated the postfix order of its tokens to that value. -/
theorem evaluate_of_calculate {text : String} {source : ValueSource Id} {value : Float}
    (h : Id.run (calculate text source) = .ok value) :
    ∃ rpn b, Postfix.ofTokens (Token.scan text) = .ok rpn ∧
      StackMachine.evaluate b rpn = .ok value := by
  rw [calculate_eq] at h
  cases hx : Expression.ofText text with
  | error e => simp [hx] at h
  | ok x =>
    rw [hx] at h
    simp only [Expression.evaluateFrom_eq, Id.run_bind] at h
    cases hanswer : (source.collect .empty x.variableNames).run with
    | error e => simp [hanswer] at h
    | ok b =>
      simp only [hanswer, Id.run_pure, Expression.value] at h
      refine ⟨x.rpn, b, (Expression.ofText_eq_ok_iff.mp hx).2, ?_⟩
      cases hvalue : StackMachine.evaluate b x.rpn with
      | error e =>
        rw [hvalue] at h
        cases h
      | ok result =>
        rw [hvalue] at h
        cases h
        rfl

end Calculator
