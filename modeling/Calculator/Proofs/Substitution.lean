import Calculator.Proofs.Adjacency
import Calculator.Proofs.Conservation
import Calculator.Proofs.Nesting

/-!
# Replacing a variable by an expression

A variable may be replaced everywhere by a bracketed sequence that has a value, or else be given
that value. Both come to the same, for sequences that are malformed elsewhere too. The one place
that a bracketed part can disturb is a function that waits directly in front of it, so functions
have to have brackets of their own.
-/

namespace Calculator

open Token

namespace Token

/-- Puts a sequence in the place of every occurrence of a variable. -/
def replace (x : String) (part tokens : List Token) : List Token :=
  tokens.flatMap fun token => if token = .name x then part else [token]

variable (x : String) (part : List Token)

@[simp]
theorem replace_append (first second : List Token) :
    replace x part (first ++ second) = replace x part first ++ replace x part second :=
  List.flatMap_append

/-- The variable itself becomes the sequence. -/
theorem replace_cons_name (tokens : List Token) :
    replace x part (.name x :: tokens) = part ++ replace x part tokens := by
  simp [replace]

/-- Every other token stays. -/
theorem replace_cons_of_ne {token : Token} (h : token ≠ .name x) (tokens : List Token) :
    replace x part (token :: tokens) = token :: replace x part tokens := by
  simp [replace, h]

/-- Where the variable does not occur, all stays. -/
theorem replace_of_not_mem {tokens : List Token} (h : .name x ∉ tokens) :
    replace x part tokens = tokens := by
  induction tokens with
  | nil => rfl
  | cons token tokens ih =>
    rw [List.mem_cons, not_or] at h
    rw [replace_cons_of_ne x part (Ne.symm h.1), ih h.2]

end Token

namespace Postfix

/-- Every function on the stack has the bracket of its argument on top of it. -/
def Covered : List Pending → Prop
  | [] => True
  | .operator _ :: rest => Covered rest
  | .function _ :: _ => False
  | .bracket :: .function _ :: rest => Covered rest
  | .bracket :: rest => Covered rest

/-- A part in brackets is not the argument of a function. -/
theorem Covered.call_eq {stack : List Pending} (h : Covered stack) : call stack = ([], stack) := by
  cases stack with
  | nil => rfl
  | cons entry rest =>
    cases entry with
    | operator op => rfl
    | function f => cases h
    | bracket => rfl

/-- A further bracket covers no function that is not covered already. -/
theorem Covered.bracket {stack : List Pending} (h : Covered stack) :
    Covered (.bracket :: stack) := by
  cases stack with
  | nil => trivial
  | cons entry rest =>
    cases entry with
    | operator op => exact h
    | function f => cases h
    | bracket => exact h

/-- Functions stay covered when operators on top are released. -/
theorem Covered.of_operators {ops : List Operator} {below : List Pending}
    (h : Covered (ops.map .operator ++ below)) : Covered below := by
  induction ops with
  | nil => exact h
  | cons op ops ih => exact ih h

/-- Functions stay covered when a bracket is closed, since its function is called with it. -/
theorem Covered.of_closed {above below : List Pending} (habove : .bracket ∉ above)
    (h : Covered (above ++ .bracket :: below)) : Covered (call below).2 := by
  induction above with
  | nil =>
    cases below with
    | nil => trivial
    | cons entry rest => cases entry <;> exact h
  | cons entry above ih =>
    rw [List.mem_cons, not_or] at habove
    cases entry with
    | operator op => exact ih habove.2 h
    | function f => cases h
    | bracket => exact absurd rfl habove.1

/-- Every function on the stack is covered, or the last one is about to be. -/
def CoveredBefore (stack : List Pending) (tokens : List Token) : Prop :=
  Covered stack ∨
    ∃ f rest, stack = .function f :: rest ∧ Covered rest ∧ tokens.head? = some .opening

/-- Unless an opening bracket comes next, every function is covered. -/
theorem CoveredBefore.covered {stack : List Pending} {token : Token} {tokens : List Token}
    (h : CoveredBefore stack (token :: tokens)) (hnot : token ≠ .opening) : Covered stack := by
  rcases h with hcovered | ⟨f, rest, -, -, hhead⟩
  · exact hcovered
  · exact absurd (Option.some.inj hhead) hnot

/-- With brackets behind every function, a step leaves every function covered. -/
theorem Takes.coveredBefore {stack after : List Pending} {token : Token} {tokens out : List Token}
    (h : Takes stack token out after) (hcalls : callsBracketed (token :: tokens) = true)
    (hbefore : CoveredBefore stack (token :: tokens)) : CoveredBefore after tokens := by
  cases h with
  | operand hoperand =>
    have hnot : token ≠ .opening := by
      rintro rfl
      cases hoperand
    exact Or.inl (hbefore.covered hnot)
  | function f =>
    have hnext : tokens.head? = some .opening := by simpa using (Bool.and_eq_true_iff.mp hcalls).1
    exact Or.inr ⟨f, stack, rfl, hbefore.covered (by simp), hnext⟩
  | opening =>
    rcases hbefore with hcovered | ⟨f, rest, rfl, hcovered, -⟩
    · exact Or.inl hcovered.bracket
    · exact Or.inl hcovered
  | closing hstack habove =>
    have hcovered := hbefore.covered (by simp)
    rw [hstack] at hcovered
    exact Or.inl (hcovered.of_closed habove)
  | operator op hstack htight hloose =>
    have hcovered := hbefore.covered (by simp)
    rw [hstack] at hcovered
    exact Or.inl hcovered.of_operators

/-- No variable waits on the stack. -/
theorem name_not_mem_released (x : String) (stack : List Pending) : .name x ∉ released stack := by
  intro hmem
  have hoperand := isOperand_of_mem_released hmem
  cases hoperand

/-- A variable is released by no step but its own. -/
theorem Takes.name_not_mem {stack after : List Pending} {token : Token} {out : List Token}
    (h : Takes stack token out after) {x : String} (hne : token ≠ .name x) : .name x ∉ out := by
  intro hmem
  have hkept : .name x ∈ out.filter isOperand := List.mem_filter.mpr ⟨hmem, rfl⟩
  rw [h.filter_isOperand] at hkept
  have hname := List.mem_singleton.mp (List.mem_filter.mp hkept).1
  exact hne hname.symm

/-- While every function has brackets of its own, a bracketed part runs in the place of a variable
with the same stack behind it, and what it becomes is released in the place of the variable. -/
theorem run_replace {x : String} {part inner : List Token} (hinner : ofTokens part = .ok inner)
    {tokens : List Token} {stack : List Pending} (hcalls : callsBracketed tokens = true)
    (hbefore : CoveredBefore stack tokens) :
    run stack (replace x (.opening :: part ++ [.closing]) tokens) =
      (run stack tokens).map fun taken => (replace x inner taken.1, taken.2) := by
  induction tokens generalizing stack with
  | nil => rfl
  | cons token tokens ih =>
    have hrest : callsBracketed tokens = true := by
      cases token with
      | function f => exact (Bool.and_eq_true_iff.mp hcalls).2
      | _ => exact hcalls
    by_cases hx : token = .name x
    · -- no function waits in front of the variable, so closing the part calls none
      subst hx
      have hcovered := hbefore.covered (by simp)
      have hgroup := runs_of_ofTokens hinner stack
      rw [hcovered.call_eq, List.append_nil] at hgroup
      rw [replace_cons_name, run_append, run_eq_ok_iff.mpr hgroup]
      simp only [run, step, Except.ok_bind, ih hrest (Or.inl hcovered)]
      cases run stack tokens with
      | error e => rfl
      | ok taken => simp [Except.map, replace_cons_name]
    · -- the step is the same, and it releases no variable
      rw [replace_cons_of_ne _ _ hx]
      simp only [run]
      cases htaken : step stack token with
      | error e => rfl
      | ok taken =>
        obtain ⟨out, after⟩ := taken
        have htakes := step_eq_ok_iff.mp htaken
        have hout := replace_of_not_mem x inner (htakes.name_not_mem hx)
        simp only [Except.ok_bind, ih hrest (htakes.coveredBefore hcalls hbefore)]
        cases run after tokens with
        | error e => rfl
        | ok more => simp [Except.map, hout]

/-- A bracketed part in the place of a variable is refused exactly if the variable is, and becomes
its own postfix order in the place of the variable. -/
theorem ofTokens_replace {x : String} {part inner : List Token}
    (hinner : ofTokens part = .ok inner) {tokens : List Token}
    (hcalls : callsBracketed tokens = true) :
    ofTokens (replace x (.opening :: part ++ [.closing]) tokens) =
      (ofTokens tokens).map (replace x inner) := by
  have hempty : CoveredBefore [] tokens := Or.inl trivial
  simp only [ofTokens, run_replace hinner hcalls hempty]
  cases run [] tokens with
  | error e => rfl
  | ok taken =>
    by_cases hmem : .bracket ∈ taken.2
    · simp [Except.map, drain_of_mem hmem]
    · have hrest := replace_of_not_mem x inner (name_not_mem_released x taken.2)
      simp [Except.map, drain_of_not_mem hmem, hrest]

end Postfix

namespace StackMachine

/-- The postfix order of a sequence with a value runs in the place of a variable as the variable
does with that value. -/
theorem run_replace {b : Bindings} {inner : List Token} {value : Float}
    (hvalue : evaluate b inner = .ok value) (x : String) (rpn : List Token) (stack : List Float) :
    run b stack (replace x inner rpn) = run (b.insert x value) stack rpn := by
  induction rpn generalizing stack with
  | nil => rfl
  | cons token rpn ih =>
    have hright : run (b.insert x value) stack (token :: rpn) =
        step (b.insert x value) stack token >>= fun middle => run (b.insert x value) middle rpn :=
      List.foldlM_cons
    rw [hright]
    by_cases hx : token = .name x
    · subst hx
      rw [replace_cons_name, run_append, run_of_evaluate hvalue, Except.ok_bind, ih]
      simp [step, variableValue]
    · have hleft : run b stack (token :: replace x inner rpn) =
          step b stack token >>= fun middle => run b middle (replace x inner rpn) :=
        List.foldlM_cons
      have hstep : step b stack token = step (b.insert x value) stack token := by
        cases token with
        | name n =>
          have hne : n ≠ x := fun heq => hx (congrArg Token.name heq)
          simp [step, variableValue, hne]
        | _ => rfl
      rw [replace_cons_of_ne _ _ hx, hleft, hstep]
      congr 1
      funext middle
      exact ih middle

end StackMachine

/-- A variable may be replaced everywhere by a sequence in brackets that has a value, or be given
that value: the brackets of both are refused with the same error, or both are evaluated to the
same value or the same error. It does not matter what is malformed around the variable, as long
as every function stands in front of a bracket. -/
theorem evaluate_replace {tokens part inner : List Token} {b : Bindings} {value : Float}
    (x : String) (hcalls : callsBracketed tokens = true)
    (hinner : Postfix.ofTokens part = .ok inner)
    (hvalue : StackMachine.evaluate b inner = .ok value) :
    (∃ e, Postfix.ofTokens tokens = .error e ∧
        Postfix.ofTokens (replace x (.opening :: part ++ [.closing]) tokens) = .error e) ∨
      ∃ rpn replaced, Postfix.ofTokens tokens = .ok rpn ∧
        Postfix.ofTokens (replace x (.opening :: part ++ [.closing]) tokens) = .ok replaced ∧
        StackMachine.evaluate b replaced =
          StackMachine.evaluate (b.insert x value) rpn := by
  have hreplaced := Postfix.ofTokens_replace (x := x) hinner hcalls
  cases hrpn : Postfix.ofTokens tokens with
  | error e =>
    rw [hrpn] at hreplaced
    exact Or.inl ⟨e, rfl, hreplaced⟩
  | ok rpn =>
    rw [hrpn] at hreplaced
    refine Or.inr ⟨rpn, replace x inner rpn, rfl, hreplaced, ?_⟩
    rw [StackMachine.evaluate, StackMachine.run_replace hvalue]
    rfl

/-- In the root of `x` next to another `x`, with an operator too many, `x` is replaced by `x + y`:
the replaced variable is not the one inside its replacement. -/
theorem evaluate_replace_in_malformed :
    ∃ rpn replaced,
      Postfix.ofTokens [.function .sqrt, .opening, .name "x", .closing, .name "x", .operator .mul,
        .operator .sub] = .ok rpn ∧
      Postfix.ofTokens [.function .sqrt, .opening, .opening, .name "x", .operator .add, .name "y",
        .closing, .closing, .opening, .name "x", .operator .add, .name "y", .closing,
        .operator .mul, .operator .sub] = .ok replaced ∧
      StackMachine.evaluate (.ofList [("x", 1.0), ("y", 2.0)]) replaced =
        StackMachine.evaluate
          ((Bindings.ofList [("x", 1.0), ("y", 2.0)]).insert "x" (1.0 + 2.0)) rpn := by
  have hvalue : StackMachine.evaluate (.ofList [("x", 1.0), ("y", 2.0)])
      [.name "x", .name "y", .operator .add] = .ok (1.0 + 2.0) := rfl
  have hcalls : callsBracketed [.function .sqrt, .opening, .name "x", .closing, .name "x",
      .operator .mul, .operator .sub] = true := rfl
  have hinner : Postfix.ofTokens [.name "x", .operator .add, .name "y"] =
      .ok [.name "x", .name "y", .operator .add] := rfl
  rcases evaluate_replace "x" hcalls hinner hvalue with ⟨e, herror, -⟩ | hvalues
  · cases herror
  · exact hvalues

end Calculator
