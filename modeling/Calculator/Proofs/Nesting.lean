import Calculator.Proofs.BracketDepth
import Calculator.Proofs.Grouping
import Calculator.Proofs.OperandCount

/-!
# Parts of a sequence that stand by themselves

A part between brackets is converted without a look at what waits below its opening bracket, and
what it becomes is evaluated without a look at the values below. So inside any sequence, however
malformed, a bracketed part acts as it does alone.
-/

namespace Calculator

open Token

/-- A sequence between brackets. -/
def Token.bracketed (tokens : List Token) : List Token :=
  .opening :: tokens ++ [.closing]

namespace Postfix

/-- A call stops at a bracket, whatever waits below it. -/
theorem call_append_bracket (stack below : List Pending) :
    call (stack ++ .bracket :: below) = ((call stack).1, (call stack).2 ++ .bracket :: below) := by
  cases stack with
  | nil => rfl
  | cons entry rest => cases entry <;> rfl

/-- A bracket below the stack leaves its top as loose as it is. -/
theorem Looser.append_bracket {level : Nat} {stack : List Pending} (h : Looser level stack)
    (below : List Pending) : Looser level (stack ++ .bracket :: below) := by
  cases stack with
  | nil => trivial
  | cons entry rest =>
    cases entry with
    | operator top => exact h
    | function f => trivial
    | bracket => trivial

/-- What can be done with a token alone is done in the same way above any bracket. -/
theorem Takes.above {stack after : List Pending} {token : Token} {out : List Token}
    (h : Takes stack token out after) (below : List Pending) :
    Takes (stack ++ .bracket :: below) token out (after ++ .bracket :: below) := by
  cases h with
  | operand hoperand => exact .operand hoperand
  | function f => exact .function f
  | opening => exact .opening
  | @closing above rest hstack habove =>
    have hcall := call_append_bracket rest below
    have hclosing : Takes (stack ++ .bracket :: below) .closing
        (released above ++ (call (rest ++ .bracket :: below)).1)
        (call (rest ++ .bracket :: below)).2 := .closing (by simp [hstack]) habove
    rwa [hcall] at hclosing
  | operator op hstack htight hloose =>
    exact .operator op (by simp [hstack]) htight (hloose.append_bracket below)

/-- A sequence that runs alone runs in the same way above any bracket. -/
theorem Runs.above {stack after : List Pending} {tokens out : List Token}
    (h : Runs stack tokens out after) (below : List Pending) :
    Runs (stack ++ .bracket :: below) tokens out (after ++ .bracket :: below) := by
  induction h with
  | nil stack => exact .nil _
  | cons first _ ih => exact .cons (first.above below) ih

/-- In brackets, on any stack, a sequence becomes its own postfix order; a function in front of
the brackets is called behind it, and all else on the stack stays. -/
theorem runs_of_ofTokens {tokens rpn : List Token} (h : ofTokens tokens = .ok rpn)
    (stack : List Pending) :
    Runs stack (.opening :: tokens ++ [.closing]) (rpn ++ (call stack).1) (call stack).2 := by
  obtain ⟨out, waiting, hruns, hmem, rfl⟩ := ofTokens_eq_ok_iff.mp h
  have hinside : Runs (.bracket :: stack) tokens out (waiting ++ .bracket :: stack) :=
    hruns.above stack
  have hclosing : Takes (waiting ++ .bracket :: stack) .closing
      (released waiting ++ (call stack).1) (call stack).2 := .closing rfl hmem
  have hbracketed := Runs.cons .opening (hinside.append (.single hclosing))
  simpa using hbracketed

/-- Parts that run alike on every stack can stand for one another inside any sequence. -/
theorem ofTokens_congr {part other : List Token} (h : ∀ stack, run stack part = run stack other)
    (front back : List Token) :
    ofTokens (front ++ part ++ back) = ofTokens (front ++ other ++ back) := by
  simp only [ofTokens, run_append, h]

/-- What a part in brackets does depends on its own postfix order alone. -/
theorem run_bracketed {part rpn : List Token} (h : ofTokens part = .ok rpn)
    (stack : List Pending) :
    run stack (bracketed part) = .ok (rpn ++ (call stack).1, (call stack).2) :=
  run_eq_ok_iff.mpr (runs_of_ofTokens h stack)

/-- Brackets around a whole sequence leave its postfix order as it is. -/
theorem ofTokens_bracketed {part rpn : List Token} (h : ofTokens part = .ok rpn) :
    ofTokens (bracketed part) = .ok rpn := by
  rw [ofTokens, run_bracketed h]
  simp [call, drain]

/-- Inside any sequence, however malformed, a part in brackets acts only through its own postfix
order: it can be exchanged for any other with the same one, and the whole is refused with the same
error or becomes the same. In particular, brackets around a whole sequence and a second pair of
brackets around a part in brackets change nothing. -/
theorem ofTokens_exchange {part : List Token} (hpart : Brackets.balanced part = true) :
    (∀ other, ofTokens part = ofTokens other → ∀ front back,
      ofTokens (front ++ bracketed part ++ back) = ofTokens (front ++ bracketed other ++ back)) ∧
      ofTokens (bracketed part) = ofTokens part ∧
      ∀ front back, ofTokens (front ++ bracketed (bracketed part) ++ back) =
        ofTokens (front ++ bracketed part ++ back) := by
  obtain ⟨rpn, hrpn⟩ := ofTokens_of_balanced hpart
  have hbracketed := ofTokens_bracketed hrpn
  refine ⟨?_, hbracketed.trans hrpn.symm, ?_⟩
  · intro other hsame
    have hother : ofTokens other = .ok rpn := hsame.symm.trans hrpn
    apply ofTokens_congr
    intro stack
    rw [run_bracketed hrpn, run_bracketed hother]
  · apply ofTokens_congr
    intro stack
    rw [run_bracketed hbracketed, run_bracketed hrpn]

/-- A sum and its own postfix order, which is no expression, stand for one another as the argument
of a function that a product waits for, with an operator too many behind it; and a second pair of
brackets around the sum changes nothing. -/
theorem ofTokens_exchange_sum :
    let sum := [.name "x", .operator .add, .number "1"]
    let rpn := [.name "x", .number "1", .operator .add]
    let front := [.number "2", .operator .mul, .function .sqrt]
    let back := [.operator .div]
    Brackets.balanced sum = true ∧ ofTokens sum = ofTokens rpn ∧
      ofTokens (front ++ bracketed sum ++ back) = ofTokens (front ++ bracketed rpn ++ back) ∧
      ofTokens (bracketed sum) = ofTokens sum ∧
      ofTokens (front ++ bracketed (bracketed sum) ++ back) =
        ofTokens (front ++ bracketed sum ++ back) := by
  intro sum rpn front back
  have hbalanced : Brackets.balanced sum = true := rfl
  have hsame : ofTokens sum = ofTokens rpn := rfl
  obtain ⟨hexchange, hwhole, hdoubled⟩ := ofTokens_exchange hbalanced
  exact ⟨hbalanced, hsame, hexchange rpn hsame front back, hwhole, hdoubled front back⟩

end Postfix

namespace StackMachine

/-- A move that can be made alone is made in the same way above any values. -/
theorem Moves.above {b : Bindings} {stack after : List Float} {token : Token}
    (h : Moves b stack token after) (below : List Float) :
    Moves b (stack ++ below) token (after ++ below) := by
  cases h with
  | number hvalue => exact .number hvalue
  | name hvalue => exact .name hvalue
  | operator hvalue => exact .operator hvalue
  | function hvalue => exact .function hvalue
  | opening => exact .opening
  | closing => exact .closing

/-- A sequence that runs alone runs in the same way above any values. -/
theorem run_above {b : Bindings} {stack after : List Float} {tokens : List Token}
    (h : run b stack tokens = .ok after) (below : List Float) :
    run b (stack ++ below) tokens = .ok (after ++ below) := by
  induction tokens generalizing stack with
  | nil => cases h; rfl
  | cons token tokens ih =>
    obtain ⟨middle, hmoves, hrun⟩ := run_cons_eq_ok_iff.mp h
    exact run_cons_eq_ok_iff.mpr ⟨middle ++ below, hmoves.above below, ih hrun⟩

/-- A sequence that has a value alone puts it on top of any stack. -/
theorem run_of_evaluate {b : Bindings} {rpn : List Token} {value : Float}
    (h : evaluate b rpn = .ok value) (stack : List Float) :
    run b stack rpn = .ok (value :: stack) :=
  run_above (evaluate_eq_ok_iff.mp h) stack

end StackMachine

end Calculator
