import Calculator.Postfix
import Calculator.Proofs.Sequencing

/-!
# The stack of pending entries

Taking a token moves entries from the stack to the output by one of five rules. The rules are
stated here as a relation, so that whatever holds of one step is carried through a whole run by
induction on the rules, without opening the functions that release, close and drain.
-/

namespace Calculator.Postfix

/-- The token that an entry becomes when it is released. A bracket vanishes. -/
def Pending.token? : Pending → Option Token
  | .operator op => some (.operator op)
  | .function f => some (.function f)
  | .bracket => none

/-- The tokens that the entries of a stack become, from the top down. -/
def released (stack : List Pending) : List Token :=
  stack.filterMap Pending.token?

/-- The number of opening brackets that wait on a stack. -/
def openings (stack : List Pending) : Nat :=
  stack.count .bracket

/-- An operator on top of the stack binds less tightly than `level`. -/
def Looser (level : Nat) : List Pending → Prop
  | .operator top :: _ => top.precedence < level
  | _ => True

/-- Releases a function on top of the stack, whose argument has just been closed. -/
def call : List Pending → List Token × List Pending
  | .function f :: rest => ([.function f], rest)
  | rest => ([], rest)

@[simp]
theorem released_append (above below : List Pending) :
    released (above ++ below) = released above ++ released below :=
  List.filterMap_append

@[simp]
theorem released_bracket (stack : List Pending) : released (.bracket :: stack) = released stack :=
  rfl

@[simp]
theorem released_function (f : Builtin) (stack : List Pending) :
    released (.function f :: stack) = .function f :: released stack :=
  rfl

@[simp]
theorem released_operator (op : Operator) (stack : List Pending) :
    released (.operator op :: stack) = .operator op :: released stack :=
  rfl

@[simp]
theorem released_operators (ops : List Operator) :
    released (ops.map .operator) = ops.map .operator := by
  induction ops with
  | nil => rfl
  | cons op ops ih => simp [ih]

@[simp]
theorem openings_append (above below : List Pending) :
    openings (above ++ below) = openings above + openings below :=
  List.count_append

@[simp]
theorem openings_bracket (stack : List Pending) :
    openings (.bracket :: stack) = openings stack + 1 :=
  List.count_cons_self

@[simp]
theorem openings_function (f : Builtin) (stack : List Pending) :
    openings (.function f :: stack) = openings stack :=
  List.count_cons_of_ne (by simp)

@[simp]
theorem openings_operator (op : Operator) (stack : List Pending) :
    openings (.operator op :: stack) = openings stack :=
  List.count_cons_of_ne (by simp)

@[simp]
theorem openings_operators (ops : List Operator) : openings (ops.map .operator) = 0 := by
  induction ops with
  | nil => rfl
  | cons op ops ih => simp [ih]

/-- No bracket waits on a stack exactly if its openings count to zero. -/
theorem openings_eq_zero_iff {stack : List Pending} :
    openings stack = 0 ↔ .bracket ∉ stack :=
  List.count_eq_zero

/-- A call moves at most one entry to the output. -/
theorem call_released (stack : List Pending) :
    (call stack).1 ++ released (call stack).2 = released stack := by
  unfold call
  split <;> rfl

/-- A call moves no bracket. -/
@[simp]
theorem openings_call (stack : List Pending) : openings (call stack).2 = openings stack := by
  unfold call
  split <;> simp

/-- Of operators on top of a looser entry, those are released that bind at least as tightly. -/
theorem release_append {op : Operator} {ops : List Operator} {below : List Pending}
    (htight : ∀ top ∈ ops, op.precedence ≤ top.precedence) (hloose : Looser op.precedence below) :
    release op (ops.map .operator ++ below) = (ops.map .operator, below) := by
  induction ops with
  | nil =>
    cases below with
    | nil => rfl
    | cons entry rest =>
      cases entry with
      | operator top => exact if_neg (Nat.not_le.mpr hloose)
      | function f => rfl
      | bracket => rfl
  | cons top ops ih =>
    have hrest := ih fun other hother => htight other (List.mem_cons_of_mem _ hother)
    simp only [List.map_cons, List.cons_append, release, hrest]
    rw [if_pos (htight top (List.mem_cons_self ..))]

/-- Every stack is a run of operators that bind at least as tightly as `op`, on top of a looser
entry. -/
theorem exists_tight_operators (op : Operator) (stack : List Pending) :
    ∃ (ops : List Operator) (below : List Pending),
      stack = ops.map .operator ++ below ∧ (∀ top ∈ ops, op.precedence ≤ top.precedence) ∧
        Looser op.precedence below := by
  induction stack with
  | nil => exact ⟨[], [], rfl, by simp, trivial⟩
  | cons entry rest ih =>
    cases entry with
    | operator top =>
      by_cases hle : op.precedence ≤ top.precedence
      · obtain ⟨ops, below, hrest, htight, hloose⟩ := ih
        exact ⟨top :: ops, below, by simp [hrest], by simpa [hle] using htight, hloose⟩
      · exact ⟨[], .operator top :: rest, rfl, by simp, Nat.lt_of_not_le hle⟩
    | function f => exact ⟨[], .function f :: rest, rfl, by simp, trivial⟩
    | bracket => exact ⟨[], .bracket :: rest, rfl, by simp, trivial⟩

/-- Closing releases all entries above the last opening bracket, and the call below it. -/
theorem close_append {above : List Pending} (habove : .bracket ∉ above) (below : List Pending) :
    close (above ++ .bracket :: below) =
      .ok (released above ++ (call below).1, (call below).2) := by
  induction above with
  | nil =>
    simp only [List.nil_append]
    unfold close call
    cases below with
    | nil => rfl
    | cons entry rest => cases entry <;> rfl
  | cons entry above ih =>
    have hrest := ih fun h => habove (List.mem_cons_of_mem _ h)
    cases entry with
    | operator op => simp [close, hrest]
    | function f => simp [close, hrest]
    | bracket => exact absurd (List.mem_cons_self ..) habove

/-- Without an opening bracket there is nothing to close. -/
theorem close_of_not_mem {stack : List Pending} (h : .bracket ∉ stack) :
    close stack = .error .extraClosing := by
  induction stack with
  | nil => rfl
  | cons entry rest ih =>
    have hrest := ih fun hmem => h (List.mem_cons_of_mem _ hmem)
    cases entry with
    | operator op => simp [close, hrest]
    | function f => simp [close, hrest]
    | bracket => exact absurd (List.mem_cons_self ..) h

/-- Without an opening bracket the whole stack is drained, from the top down. -/
theorem drain_of_not_mem {stack : List Pending} (h : .bracket ∉ stack) :
    drain stack = .ok (released stack) := by
  induction stack with
  | nil => rfl
  | cons entry rest ih =>
    have hrest := ih fun hmem => h (List.mem_cons_of_mem _ hmem)
    cases entry with
    | operator op => simp [drain, hrest]
    | function f => simp [drain, hrest]
    | bracket => exact absurd (List.mem_cons_self ..) h

/-- An opening bracket that is left over is refused. -/
theorem drain_of_mem {stack : List Pending} (h : .bracket ∈ stack) :
    drain stack = .error .extraOpening := by
  induction stack with
  | nil => cases h
  | cons entry rest ih =>
    cases entry with
    | operator op => simp [drain, ih (by simpa using h)]
    | function f => simp [drain, ih (by simpa using h)]
    | bracket => rfl

/-- What taking a token releases, and the stack behind it. -/
inductive Takes (stack : List Pending) : Token → List Token → List Pending → Prop where
  /-- An operand passes through. -/
  | operand {token : Token} (hoperand : token.isOperand = true) : Takes stack token [token] stack
  /-- A function waits for its argument. -/
  | function (f : Builtin) : Takes stack (.function f) [] (.function f :: stack)
  /-- An opening bracket waits for the closing one. -/
  | opening : Takes stack .opening [] (.bracket :: stack)
  /-- A closing bracket releases all that the brackets held, and a function in front of them. -/
  | closing {above below : List Pending} (hstack : stack = above ++ .bracket :: below)
    (habove : .bracket ∉ above) :
    Takes stack .closing (released above ++ (call below).1) (call below).2
  /-- An operator releases the operators on top that bind at least as tightly, and waits. -/
  | operator (op : Operator) {ops : List Operator} {below : List Pending}
    (hstack : stack = ops.map .operator ++ below)
    (htight : ∀ top ∈ ops, op.precedence ≤ top.precedence) (hloose : Looser op.precedence below) :
    Takes stack (.operator op) (ops.map .operator) (.operator op :: below)

/-- A step that succeeds follows one of the rules. -/
theorem step_eq_ok_iff {stack after : List Pending} {token : Token} {out : List Token} :
    step stack token = .ok (out, after) ↔ Takes stack token out after := by
  constructor
  · intro hok
    cases token with
    | number literal => cases hok; exact .operand rfl
    | name n => cases hok; exact .operand rfl
    | function f => cases hok; exact .function f
    | opening => cases hok; exact .opening
    | closing =>
      by_cases hmem : .bracket ∈ stack
      · obtain ⟨above, below, rfl, habove⟩ := List.eq_append_cons_of_mem hmem
        rw [step, close_append habove] at hok
        cases hok
        exact .closing rfl habove
      · rw [step, close_of_not_mem hmem] at hok
        cases hok
    | operator op =>
      obtain ⟨ops, below, rfl, htight, hloose⟩ := exists_tight_operators op stack
      rw [step, release_append htight hloose] at hok
      cases hok
      exact .operator op rfl htight hloose
  · intro htakes
    cases htakes with
    | operand hoperand =>
      cases token with
      | number literal => rfl
      | name n => rfl
      | _ => cases hoperand
    | function f => rfl
    | opening => rfl
    | closing hstack habove => rw [hstack, step, close_append habove]
    | operator op hstack htight hloose => rw [hstack, step, release_append htight hloose]

/-- A step fails only at a closing bracket with no opening one on the stack. -/
theorem step_eq_error_iff {stack : List Pending} {token : Token} {e : BracketError} :
    step stack token = .error e ↔
      token = .closing ∧ .bracket ∉ stack ∧ e = .extraClosing := by
  constructor
  · intro herr
    cases token with
    | closing =>
      by_cases hmem : .bracket ∈ stack
      · obtain ⟨above, below, rfl, habove⟩ := List.eq_append_cons_of_mem hmem
        rw [step, close_append habove] at herr
        cases herr
      · rw [step, close_of_not_mem hmem] at herr
        cases herr
        exact ⟨rfl, hmem, rfl⟩
    | _ => cases herr
  · rintro ⟨rfl, hmem, rfl⟩
    exact close_of_not_mem hmem

/-- What taking a sequence of tokens releases, and the stack behind it. -/
inductive Runs : List Pending → List Token → List Token → List Pending → Prop where
  | nil (stack : List Pending) : Runs stack [] [] stack
  | cons {stack middle after : List Pending} {token : Token} {tokens out later : List Token}
    (first : Takes stack token out middle) (rest : Runs middle tokens later after) :
    Runs stack (token :: tokens) (out ++ later) after

/-- A run that succeeds is a sequence of steps by the rules. -/
theorem run_eq_ok_iff {stack after : List Pending} {tokens out : List Token} :
    run stack tokens = .ok (out, after) ↔ Runs stack tokens out after := by
  constructor
  · intro hok
    induction tokens generalizing stack out with
    | nil => cases hok; exact .nil _
    | cons token tokens ih =>
      simp only [run, Except.bind_eq_ok_iff] at hok
      obtain ⟨taken, hstep, more, hrest, hout⟩ := hok
      cases hout
      exact .cons (step_eq_ok_iff.mp hstep) (ih hrest)
  · intro hruns
    induction hruns with
    | nil _ => rfl
    | cons first rest ih => simp [run, step_eq_ok_iff.mpr first, ih]

/-- A sequence is put into postfix order if it runs to a stack without brackets, which is
drained behind what the run released. -/
theorem ofTokens_eq_ok_iff {tokens rpn : List Token} :
    ofTokens tokens = .ok rpn ↔
      ∃ out stack, Runs [] tokens out stack ∧ .bracket ∉ stack ∧ rpn = out ++ released stack := by
  constructor
  · intro hok
    simp only [ofTokens, Except.bind_eq_ok_iff] at hok
    obtain ⟨⟨out, stack⟩, hrun, rest, hdrain, hrpn⟩ := hok
    have hmem : .bracket ∉ stack := by
      intro hmem
      rw [drain_of_mem hmem] at hdrain
      cases hdrain
    rw [drain_of_not_mem hmem] at hdrain
    cases hdrain
    cases hrpn
    exact ⟨out, stack, run_eq_ok_iff.mp hrun, hmem, rfl⟩
  · rintro ⟨out, stack, hruns, hmem, rfl⟩
    simp [ofTokens, run_eq_ok_iff.mpr hruns, drain_of_not_mem hmem]

end Calculator.Postfix
