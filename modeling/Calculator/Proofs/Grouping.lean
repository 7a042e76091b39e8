import Calculator.Grammar
import Calculator.Proofs.Decoding
import Calculator.Proofs.PendingStack

/-!
# Grouping by precedence

Every expression has exactly one tree under precedence and grouping to the left, and the conversion
to postfix order lists that tree in postorder. While a part of an expression is converted, the
operators of its right edge wait on top of whatever the stack held before. They bind at least as
tightly as the level at which the part stands, so the next operator of a looser level releases
exactly them.
-/

namespace Calculator

/-- A written tree with an operator and a tight operand behind it writes a tree again. -/
theorem Written.exists_snoc {level : Nat} {l r : Tree} {left right : List Token} (op : Operator)
    (hl : Written level l left) (hr : Written (op.precedence + 1) r right)
    (hlevel : level ≤ op.precedence) : ∃ t, Written level t (left ++ .operator op :: right) := by
  induction hl with
  | number level literal =>
    exact ⟨_, .binary op hlevel (.number op.precedence literal) hr⟩
  | name level n => exact ⟨_, .binary op hlevel (.name op.precedence n) hr⟩
  | call level f argument => exact ⟨_, .binary op hlevel (.call op.precedence f argument) hr⟩
  | group level inner => exact ⟨_, .binary op hlevel (.group op.precedence inner) hr⟩
  | binary first tight hfirst hsecond _ ih =>
    by_cases hle : op.precedence ≤ first.precedence
    · exact ⟨_, .binary op hlevel (.binary first hle hfirst hsecond) hr⟩
    · -- the new operator binds more tightly, so it goes into the right operand
      obtain ⟨t, ht⟩ := ih (by omega)
      have hjoined := Written.binary first tight hfirst ht
      rw [← List.cons_append, ← List.append_assoc] at hjoined
      exact ⟨_, hjoined⟩

/-- Two written trees with an operator between them write a tree, however loose the operators of
the two are. -/
theorem Written.exists_join {level : Nat} {l r : Tree} {left right : List Token} (op : Operator)
    (hl : Written 0 l left) (hr : Written level r right) :
    ∃ t, Written 0 t (left ++ .operator op :: right) := by
  induction hr generalizing l left op with
  | number level literal => exact hl.exists_snoc op (.number _ literal) (Nat.zero_le _)
  | name level n => exact hl.exists_snoc op (.name _ n) (Nat.zero_le _)
  | call level f argument => exact hl.exists_snoc op (.call _ f argument) (Nat.zero_le _)
  | group level inner => exact hl.exists_snoc op (.group _ inner) (Nat.zero_le _)
  | binary second tight hfirst hsecond ih =>
    -- the left operand of the second operator is joined first
    obtain ⟨t, ht⟩ := ih op hl
    obtain ⟨u, hu⟩ := ht.exists_snoc second hsecond (Nat.zero_le _)
    exact ⟨u, by simpa using hu⟩

/-- Every expression writes a tree. -/
theorem Grammatical.exists_written {tokens : List Token} (h : Grammatical tokens) :
    ∃ t, Written 0 t tokens := by
  induction h with
  | number literal => exact ⟨_, .number 0 literal⟩
  | name n => exact ⟨_, .name 0 n⟩
  | call f argument ih =>
    obtain ⟨t, ht⟩ := ih
    exact ⟨_, .call 0 f ht⟩
  | group inner ih =>
    obtain ⟨t, ht⟩ := ih
    exact ⟨_, .group 0 ht⟩
  | binary op hl hr ihl ihr =>
    obtain ⟨l, hl⟩ := ihl
    obtain ⟨r, hr⟩ := ihr
    exact hl.exists_join op hr

namespace Postfix

/-- On this stack an expression may begin in which only operators of at least the given level
stand outside brackets: none of them releases anything that waits here, and no function waits for
the expression without brackets. -/
def Ready (level : Nat) : List Pending → Prop
  | .operator top :: _ => top.precedence < level
  | .function _ :: _ => False
  | _ => True

/-- A tighter expression may begin wherever a looser one may. -/
theorem Ready.mono {level tighter : Nat} {stack : List Pending} (h : Ready level stack)
    (hle : level ≤ tighter) : Ready tighter stack := by
  cases stack with
  | nil => trivial
  | cons entry rest =>
    cases entry with
    | operator top => exact Nat.lt_of_lt_of_le h hle
    | function f => exact h
    | bracket => trivial

/-- No operator of the expression releases what waited before it. -/
theorem Ready.looser {level : Nat} {stack : List Pending} (h : Ready level stack) :
    Looser level stack := by
  cases stack with
  | nil => trivial
  | cons entry rest =>
    cases entry with
    | operator top => exact h
    | function f => trivial
    | bracket => trivial

/-- Brackets around the expression are not those of a call. -/
theorem Ready.call_eq {level : Nat} {stack : List Pending} (h : Ready level stack) :
    call stack = ([], stack) := by
  cases stack with
  | nil => rfl
  | cons entry rest =>
    cases entry with
    | operator top => rfl
    | function f => cases h
    | bracket => rfl

/-- Sequences run one after the other. -/
theorem Runs.append {stack middle after : List Pending} {first second out later : List Token}
    (hfirst : Runs stack first out middle) (hsecond : Runs middle second later after) :
    Runs stack (first ++ second) (out ++ later) after := by
  induction hfirst with
  | nil _ => exact hsecond
  | cons taken _ ih =>
    rw [List.append_assoc]
    exact .cons taken (ih hsecond)

/-- A single token runs as a step. -/
theorem Runs.single {stack after : List Pending} {token : Token} {out : List Token}
    (h : Takes stack token out after) : Runs stack [token] out after := by
  simpa using Runs.cons h (.nil after)

/-- Between brackets an expression is converted by itself. The closing bracket releases what it
left waiting, and then a call in front of the brackets. -/
theorem Runs.bracketed {stack : List Pending} {tokens out : List Token} {ops : List Operator}
    (h : Runs (.bracket :: stack) tokens out (ops.map .operator ++ .bracket :: stack)) :
    Runs stack (.opening :: tokens ++ [.closing])
      (out ++ ops.map .operator ++ (call stack).1) (call stack).2 := by
  have hclosing : Takes (ops.map .operator ++ .bracket :: stack) .closing
      (released (ops.map .operator) ++ (call stack).1) (call stack).2 := .closing rfl (by simp)
  have hruns := Runs.cons .opening (h.append (.single hclosing))
  simpa using hruns

/-- The conversion of a written tree on any stack where it may begin: what it releases and the
operators that it leaves waiting are together the postorder of the tree, and what waited before
is untouched. -/
theorem runs_of_written {level : Nat} {t : Tree} {tokens : List Token} {stack : List Pending}
    (h : Written level t tokens) (hready : Ready level stack) :
    ∃ (out : List Token) (ops : List Operator),
      Runs stack tokens out (ops.map .operator ++ stack) ∧
        out ++ ops.map .operator = t.postorder ∧ ∀ op ∈ ops, level ≤ op.precedence := by
  induction h generalizing stack with
  | number level literal => exact ⟨[.number literal], [], .single (.operand rfl), rfl, by simp⟩
  | name level n => exact ⟨[.name n], [], .single (.operand rfl), rfl, by simp⟩
  | call level f argument ih =>
    have hinside : Ready 0 (.bracket :: .function f :: stack) := trivial
    obtain ⟨out, ops, hruns, hout, -⟩ := ih hinside
    have hcall := Runs.cons (.function f) hruns.bracketed
    refine ⟨out ++ ops.map .operator ++ [.function f], [], ?_, ?_, by simp⟩
    · simpa [call] using hcall
    · simp [hout, Tree.postorder]
  | group level inner ih =>
    have hinside : Ready 0 (.bracket :: stack) := trivial
    obtain ⟨out, ops, hruns, hout, -⟩ := ih hinside
    have hgroup := hruns.bracketed
    rw [hready.call_eq] at hgroup
    refine ⟨out ++ ops.map .operator, [], ?_, by simpa using hout, by simp⟩
    simpa using hgroup
  | binary op tight hl hr ihl ihr =>
    obtain ⟨outl, opsl, hrunsl, houtl, htight⟩ := ihl (hready.mono tight)
    -- the operator releases what its left operand left waiting, and nothing else
    have hop := Takes.operator op rfl htight (hready.mono tight).looser
    have hbehind : Ready (op.precedence + 1) (.operator op :: stack) := Nat.lt_succ_self _
    obtain ⟨outr, opsr, hrunsr, houtr, htighter⟩ := ihr hbehind
    refine ⟨outl ++ (opsl.map .operator ++ outr), opsr ++ [op], ?_, ?_, ?_⟩
    · have hruns := hrunsl.append (.cons hop hrunsr)
      simpa using hruns
    · simp [← houtl, ← houtr, Tree.postorder]
    · intro other hother
      rcases List.mem_append.mp hother with hmem | hmem
      · have := htighter other hmem
        omega
      · rwa [List.mem_singleton.mp hmem]

/-- The postfix order of a written tree is its postorder. -/
theorem ofTokens_of_written {t : Tree} {tokens : List Token} (h : Written 0 t tokens) :
    ofTokens tokens = .ok t.postorder := by
  have hempty : Ready 0 [] := trivial
  obtain ⟨out, ops, hruns, hout, -⟩ := runs_of_written h hempty
  rw [List.append_nil] at hruns
  exact ofTokens_eq_ok_iff.mpr ⟨out, ops.map .operator, hruns, by simp, by simp [hout]⟩

end Postfix

end Calculator
