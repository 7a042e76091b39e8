import Calculator.Proofs.BracketDepth
import Mathlib.Data.List.Chain

/-!
# The shape of the stack

An operator releases the operators on top that bind at least as tightly before it waits itself, so
wherever two operators wait next to each other the upper one binds more tightly. Functions and
brackets stop the release: above them the precedences begin anew, and below them they are as they
were. What a closing bracket leaves is a lower part of the stack, which has the same shape.
-/

namespace Calculator

namespace Operator

/-- The lowest precedence is one. -/
theorem precedence_pos (op : Operator) : 0 < op.precedence := by
  cases op <;> decide

/-- The highest precedence is two. -/
theorem precedence_le_two (op : Operator) : op.precedence ≤ 2 := by
  cases op <;> decide

/-- Of operators that each bind more tightly than the next one, there are at most as many as there
are precedences up to that of the first. -/
theorem length_le_precedence {op : Operator} {ops : List Operator}
    (h : (op :: ops).IsChain fun upper lower => lower.precedence < upper.precedence) :
    (op :: ops).length ≤ op.precedence := by
  induction ops generalizing op with
  | nil => exact op.precedence_pos
  | cons next ops ih =>
    obtain ⟨hlt, hrest⟩ := List.isChain_cons_cons.mp h
    calc (op :: next :: ops).length
      _ = (next :: ops).length + 1 := List.length_cons
      _ ≤ next.precedence + 1 := Nat.succ_le_succ (ih hrest)
      _ ≤ op.precedence := hlt

end Operator

namespace Postfix

/-- An entry may wait right on top of another one. Of two operators, the upper one binds more
tightly; functions and brackets may wait on top of anything, and anything on top of them. -/
def Pending.RestsOn : Pending → Pending → Prop
  | .operator upper, .operator lower => lower.precedence < upper.precedence
  | _, _ => True

/-- Every entry of a stack may wait on top of the one right below it. -/
def Staggered (stack : List Pending) : Prop :=
  stack.IsChain Pending.RestsOn

@[simp]
theorem staggered_nil : Staggered [] :=
  .nil

@[simp]
theorem staggered_function (f : Builtin) (stack : List Pending) :
    Staggered (.function f :: stack) ↔ Staggered stack := by
  simp [Staggered, List.isChain_cons, Pending.RestsOn]

@[simp]
theorem staggered_bracket (stack : List Pending) :
    Staggered (.bracket :: stack) ↔ Staggered stack := by
  simp [Staggered, List.isChain_cons, Pending.RestsOn]

@[simp]
theorem staggered_operator (op : Operator) (stack : List Pending) :
    Staggered (.operator op :: stack) ↔ Looser op.precedence stack ∧ Staggered stack := by
  cases stack with
  | nil => simp [Staggered, Looser]
  | cons entry rest =>
    cases entry with
    | operator top => simp [Staggered, Pending.RestsOn, Looser]
    | function f => simp [Staggered, Pending.RestsOn, Looser]
    | bracket => simp [Staggered, Pending.RestsOn, Looser]

/-- A call leaves a lower part of the stack. -/
theorem call_suffix (stack : List Pending) : (call stack).2 <:+ stack := by
  unfold call
  split
  · exact List.suffix_cons ..
  · exact List.suffix_rfl

/-- A step keeps the shape of the stack. -/
theorem Takes.staggered {stack after : List Pending} {token : Token} {out : List Token}
    (h : Takes stack token out after) (hstack : Staggered stack) : Staggered after := by
  cases h with
  | operand hoperand => exact hstack
  | function f => simpa using hstack
  | opening => simpa using hstack
  | @closing above below hsplit habove =>
    have hbelow : below <:+ stack :=
      (List.suffix_cons .bracket below).trans ⟨above, hsplit.symm⟩
    exact List.IsChain.suffix hstack ((call_suffix below).trans hbelow)
  | @operator op ops below hsplit htight hloose =>
    have hbelow : Staggered below := List.IsChain.suffix hstack ⟨_, hsplit.symm⟩
    exact (staggered_operator op below).mpr ⟨hloose, hbelow⟩

/-- A run keeps the shape of the stack. -/
theorem Runs.staggered {stack after : List Pending} {tokens out : List Token}
    (h : Runs stack tokens out after) (hstack : Staggered stack) : Staggered after := by
  induction h with
  | nil _ => exact hstack
  | cons first _ ih => exact ih (first.staggered hstack)

/-- Of two operators next to each other the upper one binds more tightly. -/
theorem Staggered.precedence_lt {stack : List Pending} (h : Staggered stack)
    {upper lower : Operator} (hpair : [.operator upper, .operator lower] <:+: stack) :
    lower.precedence < upper.precedence := by
  obtain ⟨above, below, rfl⟩ := hpair
  have hchain : Staggered [.operator upper, .operator lower] := h.left_of_append.right_of_append
  simpa [Looser] using hchain

/-- At most two operators wait on top of each other without a function or bracket between them. -/
theorem Staggered.length_le_two {stack : List Pending} (h : Staggered stack)
    {ops : List Operator} (hops : ops.map .operator <:+: stack) : ops.length ≤ 2 := by
  obtain ⟨above, below, rfl⟩ := hops
  have hchain : Staggered (ops.map .operator) := h.left_of_append.right_of_append
  cases ops with
  | nil => exact Nat.zero_le _
  | cons op ops =>
    have hlength := Operator.length_le_precedence ((List.isChain_map _).mp hchain)
    exact hlength.trans op.precedence_le_two

/-- A run changes the number of brackets on the stack by the opening less the closing ones among
its tokens. -/
theorem openings_of_run {stack after : List Pending} {tokens out : List Token}
    (h : run stack tokens = .ok (out, after)) :
    openings after + tokens.count .closing = openings stack + tokens.count .opening := by
  have hdepth := map_openings_run stack tokens
  rw [h] at hdepth
  exact Brackets.depthAfter?_count (ofDepth_eq_ok.mp hdepth.symm)

/-- The stack behind any front of a sequence that is taken without an error, however malformed the
whole is: where two operators wait next to each other, the upper one binds more tightly, so at most
two wait on top of each other; and the brackets on the stack are the opening less the closing ones
of the front. -/
theorem shape_of_run {front out : List Token} {stack : List Pending}
    (hrun : run [] front = .ok (out, stack)) :
    (∀ upper lower, [.operator upper, .operator lower] <:+: stack →
        lower.precedence < upper.precedence) ∧
      (∀ ops : List Operator, ops.map .operator <:+: stack → ops.length ≤ 2) ∧
      (openings stack : Int) = front.count .opening - front.count .closing := by
  have hshape : Staggered stack := (run_eq_ok_iff.mp hrun).staggered staggered_nil
  refine ⟨fun upper lower => hshape.precedence_lt, fun ops => hshape.length_le_two, ?_⟩
  have hcount := openings_of_run hrun
  have hempty : openings [] = 0 := rfl
  omega

/-- A function that waits for its argument keeps a difference from releasing the product and the sum
below it, and above the open bracket a quotient waits alone; the brackets that were closed are
gone. -/
theorem shape_of_run_above_function :
    let front := [.number "2", .operator .add, .name "x", .operator .mul, .function .sqrt,
      .operator .sub, .opening, .function .cos, .opening, .name "y", .closing, .operator .div]
    let stack := [.operator .div, .bracket, .operator .sub, .function .sqrt, .operator .mul,
      .operator .add]
    run [] front = .ok ([.number "2", .name "x", .name "y", .function .cos], stack) ∧
      (∀ upper lower, [.operator upper, .operator lower] <:+: stack →
        lower.precedence < upper.precedence) ∧
      (∀ ops : List Operator, ops.map .operator <:+: stack → ops.length ≤ 2) ∧
      (openings stack : Int) = front.count .opening - front.count .closing := by
  intro front stack
  have hrun : run [] front = .ok ([.number "2", .name "x", .name "y", .function .cos], stack) :=
    rfl
  exact ⟨hrun, shape_of_run hrun⟩

end Postfix

end Calculator
