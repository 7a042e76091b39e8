import Calculator.Proofs.PendingStack

/-!
# Depth of brackets

The balance check counts open brackets, and the conversion to postfix order keeps them on a stack
among operators and functions. Counting the brackets on the stack turns every run of the
conversion into a run of the counter, so the two refuse the same sequences. What they refuse is
said without either of them: a prefix with more closing than opening brackets, or more opening
than closing ones in the whole.
-/

namespace Calculator

namespace Brackets

/-- The counter fails exactly if some prefix closes more than is open. -/
theorem depthAfter?_eq_none_iff {depth : Nat} {tokens : List Token} :
    depthAfter? depth tokens = none ↔
      ∃ front, front <+: tokens ∧ depth + front.count .opening < front.count .closing := by
  induction tokens generalizing depth with
  | nil => simp [depthAfter?, List.prefix_nil]
  | cons token tokens ih =>
    -- a failing prefix is not empty, so it takes in the first token
    have hfront : (∃ front, front <+: token :: tokens ∧
        depth + front.count .opening < front.count .closing) ↔
        ∃ front, front <+: tokens ∧
          depth + (token :: front).count .opening < (token :: front).count .closing := by
      constructor
      · rintro ⟨front, hprefix, hlt⟩
        rcases List.prefix_cons_iff.mp hprefix with rfl | ⟨rest, rfl, hrest⟩
        · simp at hlt
        · exact ⟨rest, hrest, hlt⟩
      · rintro ⟨front, hprefix, hlt⟩
        exact ⟨token :: front, (List.prefix_cons_inj token).mpr hprefix, hlt⟩
    rw [hfront]
    cases token with
    | opening =>
      rw [depthAfter?, ih]
      simp [Nat.add_assoc, Nat.add_comm 1]
    | closing =>
      cases depth with
      | zero =>
        simp only [depthAfter?, true_iff]
        exact ⟨[], List.nil_prefix, by simp⟩
      | succ outer =>
        rw [depthAfter?, ih]
        simp [Nat.add_right_comm outer 1]
    | _ =>
      rw [depthAfter?, ih]
      · simp
      all_goals simp

/-- Where the counter does not fail, it counts opening less closing brackets. -/
theorem depthAfter?_count {depth final : Nat} {tokens : List Token}
    (h : depthAfter? depth tokens = some final) :
    final + tokens.count .closing = depth + tokens.count .opening := by
  induction tokens generalizing depth with
  | nil => simpa [depthAfter?] using h.symm
  | cons token tokens ih =>
    cases token with
    | opening =>
      have hrest := ih h
      simp only [List.count_cons_self, List.count_cons_of_ne (by decide : Token.opening ≠ .closing)]
      omega
    | closing =>
      cases depth with
      | zero => cases h
      | succ outer =>
        have hrest := ih h
        simp only [List.count_cons_self,
          List.count_cons_of_ne (by decide : Token.closing ≠ .opening)]
        omega
    | _ => simpa using ih h

/-- The counter takes the first token and then the others. -/
theorem depthAfter?_cons (depth : Nat) (token : Token) (tokens : List Token) :
    depthAfter? depth (token :: tokens) =
      (depthAfter? depth [token]).bind fun depth => depthAfter? depth tokens := by
  cases token with
  | closing => cases depth <;> rfl
  | _ => rfl

/-- The check accepts exactly the sequences at whose end no bracket is open. -/
theorem check_eq_ok_iff {tokens : List Token} :
    check tokens = .ok () ↔ depthAfter? 0 tokens = some 0 := by
  simp [check, balanced]

/-- The check refuses in one way only. -/
theorem check_eq_error {tokens : List Token} (h : depthAfter? 0 tokens ≠ some 0) :
    check tokens = .error .unbalanced := by
  simp [check, balanced, h]

end Brackets

namespace Postfix

open Brackets

/-- The verdict of the counter as an outcome of the conversion. -/
def ofDepth (depth : Option Nat) : Except BracketError Nat :=
  depth.elim (.error .extraClosing) .ok

/-- The conversion goes on where the counter does, with the same depth. -/
theorem ofDepth_eq_ok {depth : Option Nat} {final : Nat} :
    ofDepth depth = .ok final ↔ depth = some final := by
  cases depth <;> simp [ofDepth]

/-- The conversion fails where the counter does. -/
theorem ofDepth_eq_error {depth : Option Nat} {e : BracketError} :
    ofDepth depth = .error e ↔ depth = none ∧ e = .extraClosing := by
  cases depth <;> simp [ofDepth, eq_comm]

/-- Counting the brackets on the stack turns a step of the conversion into one of the counter. -/
theorem map_openings_step (stack : List Pending) (token : Token) :
    (step stack token).map (fun taken => openings taken.2) =
      ofDepth (depthAfter? (openings stack) [token]) := by
  cases hstep : step stack token with
  | error e =>
    obtain ⟨rfl, hmem, rfl⟩ := step_eq_error_iff.mp hstep
    rw [openings_eq_zero_iff.mpr hmem]
    rfl
  | ok taken =>
    obtain ⟨out, after⟩ := taken
    cases step_eq_ok_iff.mp hstep with
    | operand hoperand =>
      cases token with
      | number literal => rfl
      | name n => rfl
      | _ => cases hoperand
    | function f => simp [ofDepth, depthAfter?, Except.map]
    | opening => simp [ofDepth, depthAfter?, Except.map]
    | closing hstack habove =>
      simp [hstack, openings_eq_zero_iff.mpr habove, ofDepth, depthAfter?, Except.map]
    | operator op hstack htight hloose => simp [hstack, ofDepth, depthAfter?, Except.map]

/-- Counting the brackets on the stack turns a run of the conversion into one of the counter. -/
theorem map_openings_run (stack : List Pending) (tokens : List Token) :
    (run stack tokens).map (fun taken => openings taken.2) =
      ofDepth (depthAfter? (openings stack) tokens) := by
  induction tokens generalizing stack with
  | nil => rfl
  | cons token tokens ih =>
    have hstep := map_openings_step stack token
    rw [depthAfter?_cons]
    cases htake : step stack token with
    | error e =>
      rw [htake] at hstep
      obtain ⟨hdepth, rfl⟩ := ofDepth_eq_error.mp hstep.symm
      simp [hdepth, run, htake, ofDepth, Except.map]
    | ok taken =>
      rw [htake] at hstep
      have hdepth := ofDepth_eq_ok.mp hstep.symm
      rw [hdepth, Option.bind_some, ← ih]
      simp only [run, htake, Except.ok_bind]
      cases run taken.2 tokens <;> rfl

/-- The counter decides the outcome of the conversion. -/
theorem ofTokens_of_depth (tokens : List Token) :
    match depthAfter? 0 tokens with
    | none => ofTokens tokens = .error .extraClosing
    | some 0 => ∃ rpn, ofTokens tokens = .ok rpn
    | some (_ + 1) => ofTokens tokens = .error .extraOpening := by
  have hrun : (run [] tokens).map (fun taken => openings taken.2) =
      ofDepth (depthAfter? 0 tokens) := map_openings_run [] tokens
  cases htake : run [] tokens with
  | error e =>
    rw [htake] at hrun
    obtain ⟨hdepth, rfl⟩ := ofDepth_eq_error.mp hrun.symm
    simp [hdepth, ofTokens, htake]
  | ok taken =>
    rw [htake] at hrun
    have hdepth := ofDepth_eq_ok.mp hrun.symm
    by_cases hmem : .bracket ∈ taken.2
    · obtain ⟨depth, hopen⟩ : ∃ depth, openings taken.2 = depth + 1 :=
        Nat.exists_eq_succ_of_ne_zero fun hzero => openings_eq_zero_iff.mp hzero hmem
      simp [hdepth, hopen, ofTokens, htake, drain_of_mem hmem]
    · simp [hdepth, openings_eq_zero_iff.mpr hmem, ofTokens, htake, drain_of_not_mem hmem]

/-- Only a sequence whose brackets match is put into postfix order. -/
theorem balanced_of_ofTokens {tokens rpn : List Token} (hok : ofTokens tokens = .ok rpn) :
    balanced tokens = true := by
  have houtcome := ofTokens_of_depth tokens
  match hdepth : depthAfter? 0 tokens with
  | none => simp [hdepth, hok] at houtcome
  | some 0 => simp [balanced, hdepth]
  | some (depth + 1) => simp [hdepth, hok] at houtcome

/-- Every sequence whose brackets match is put into postfix order. -/
theorem ofTokens_of_balanced {tokens : List Token} (h : balanced tokens = true) :
    ∃ rpn, ofTokens tokens = .ok rpn := by
  have houtcome := ofTokens_of_depth tokens
  have hdepth : depthAfter? 0 tokens = some 0 := by simpa [balanced] using h
  rw [hdepth] at houtcome
  exact houtcome

/-- The conversion and the check accept the same sequences. The conversion finds an extra closing
bracket if some prefix has more closing than opening ones, and otherwise an extra opening bracket
if the whole has more opening than closing ones; the check only says that the brackets do not
match. -/
theorem ofTokens_agrees_with_check (tokens : List Token) :
    ((∃ rpn, ofTokens tokens = .ok rpn) ↔ check tokens = .ok ()) ∧
      (ofTokens tokens = .error .extraClosing ↔
        ∃ front, front <+: tokens ∧ front.count .opening < front.count .closing) ∧
      (ofTokens tokens = .error .extraOpening ↔
        (∀ front, front <+: tokens → front.count .closing ≤ front.count .opening) ∧
          tokens.count .closing < tokens.count .opening) ∧
      ∀ e, ofTokens tokens = .error e →
        (e = .extraClosing ∨ e = .extraOpening) ∧ check tokens = .error .unbalanced := by
  have houtcome := ofTokens_of_depth tokens
  have hfails : depthAfter? 0 tokens = none ↔
      ∃ front, front <+: tokens ∧ front.count .opening < front.count .closing := by
    simpa only [Nat.zero_add] using @depthAfter?_eq_none_iff 0 tokens
  have hholds : (∀ front, front <+: tokens → front.count .closing ≤ front.count .opening) ↔
      depthAfter? 0 tokens ≠ none := by
    simp only [ne_eq, hfails, not_exists, not_and, Nat.not_lt]
  rw [check_eq_ok_iff, ← hfails, hholds]
  match hdepth : depthAfter? 0 tokens with
  | none =>
    rw [hdepth] at houtcome
    have hrefused : check tokens = .error .unbalanced := check_eq_error (by simp [hdepth])
    simp [houtcome, hrefused, eq_comm]
  | some 0 =>
    rw [hdepth] at houtcome
    obtain ⟨rpn, hok⟩ := houtcome
    have hcount := depthAfter?_count hdepth
    have hequal : ¬ tokens.count .closing < tokens.count .opening := by omega
    simp [hok, hequal]
  | some (depth + 1) =>
    rw [hdepth] at houtcome
    have hcount := depthAfter?_count hdepth
    have hrefused : check tokens = .error .unbalanced := check_eq_error (by simp [hdepth])
    have hmore : tokens.count .closing < tokens.count .opening := by omega
    simp [houtcome, hrefused, hmore, eq_comm]

end Postfix

end Calculator
