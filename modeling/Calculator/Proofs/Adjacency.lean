import Calculator.Grammar
import Calculator.Proofs.BracketDepth
import Calculator.Proofs.OperandCount
import Mathlib.Data.List.Chain

/-!
# What may stand next to what

The grammar can be read off neighbouring tokens. Two kinds of places are out of it: a
juxtaposition, where an operand begins directly behind another, and a gap, where an operand is
missing. Each juxtaposition makes one operand too many and each gap one too few, so their
difference tells how the operands and operators of any sequence are out of balance. A sequence
whose brackets match and that has no such place is an expression, if functions may also stand in
front of arguments without brackets.
-/

namespace Calculator

namespace Token

/-- An operand can end with this token. -/
def endsOperand : Token → Bool
  | number _ | name _ | closing => true
  | _ => false

/-- An operand can start with this token. -/
def startsOperand : Token → Bool
  | number _ | name _ | function _ | opening => true
  | _ => false

/-- The number of places where an operand starts directly behind another. The flag says whether
an operand has just ended in front of the sequence. -/
def juxtapositions : Bool → List Token → Nat
  | _, [] => 0
  | ended, token :: tokens =>
    (ended && token.startsOperand).toNat + juxtapositions token.endsOperand tokens

/-- The number of places where an operand is missing: no operand has just ended, and an operator,
a closing bracket or the end follows. -/
def gaps : Bool → List Token → Nat
  | ended, [] => (!ended).toNat
  | ended, token :: tokens =>
    (!ended && !token.startsOperand).toNat + gaps token.endsOperand tokens

/-- Whether every function stands directly in front of an opening bracket. -/
def callsBracketed : List Token → Bool
  | [] => true
  | function _ :: tokens => tokens.head? == some opening && callsBracketed tokens
  | _ :: tokens => callsBracketed tokens

/-- Juxtapositions and gaps make up the whole difference between operands and operators. -/
theorem operands_add_gaps (ended : Bool) (tokens : List Token) :
    operands tokens + gaps ended tokens + ended.toNat =
      operators tokens + juxtapositions ended tokens + 1 := by
  induction tokens generalizing ended with
  | nil => cases ended <;> rfl
  | cons token tokens ih =>
    have hrest := ih token.endsOperand
    rw [operands_cons, operators_cons, juxtapositions, gaps]
    -- each kind of token moves both sides alike, whether or not an operand has just ended
    cases token <;> cases ended <;>
      simp only [operands, operators, isOperand, isOperator, endsOperand, startsOperand,
        List.countP_singleton, Bool.and_true, Bool.and_false, Bool.not_true, Bool.not_false,
        Bool.toNat_true, Bool.toNat_false, if_true, Bool.false_eq_true, if_false] at hrest ⊢ <;>
      omega

/-- Without juxtapositions no token that ends an operand is followed by one that starts one. -/
theorem juxtapositions_eq_zero_iff (tokens : List Token) :
    juxtapositions false tokens = 0 ↔
      tokens.IsChain fun first second => ¬ (first.endsOperand ∧ second.startsOperand) := by
  induction tokens with
  | nil => simp [juxtapositions]
  | cons first tokens ih =>
    cases tokens with
    | nil => simp [juxtapositions]
    | cons second tokens =>
      rw [List.isChain_cons_cons, ← ih]
      simp only [juxtapositions, Bool.false_and, Bool.toNat_false, Nat.zero_add,
        Nat.add_eq_zero_iff, Bool.toNat_eq_zero, Bool.and_eq_false_iff, not_and_or,
        Bool.not_eq_true]

end Token

open Token Brackets

/-- The token sequences that are expressions if a function may also stand in front of an argument
without brackets. -/
inductive LooselyGrammatical : List Token → Prop where
  | number (literal : String) : LooselyGrammatical [.number literal]
  | name (name : String) : LooselyGrammatical [.name name]
  | apply (f : Builtin) {tokens : List Token} (argument : LooselyGrammatical tokens) :
    LooselyGrammatical (.function f :: tokens)
  | group {tokens : List Token} (inner : LooselyGrammatical tokens) :
    LooselyGrammatical (.opening :: tokens ++ [.closing])
  | binary (op : Operator) {left right : List Token} (hl : LooselyGrammatical left)
    (hr : LooselyGrammatical right) : LooselyGrammatical (left ++ .operator op :: right)

/-- Every expression is one in the loose sense. -/
theorem Grammatical.loosely {tokens : List Token} (h : Grammatical tokens) :
    LooselyGrammatical tokens := by
  induction h with
  | number literal => exact .number literal
  | name n => exact .name n
  | call f _ ih => exact .apply f (.group ih)
  | group _ ih => exact .group ih
  | binary op _ _ ihl ihr => exact .binary op ihl ihr

/-- Behind an expression the counts go on as behind an operand, and at the same depth. -/
theorem LooselyGrammatical.append {tokens : List Token} (h : LooselyGrammatical tokens)
    (rest : List Token) (depth : Nat) :
    juxtapositions false (tokens ++ rest) = juxtapositions true rest ∧
      gaps false (tokens ++ rest) = gaps true rest ∧
        depthAfter? depth (tokens ++ rest) = depthAfter? depth rest := by
  induction h generalizing rest depth with
  | number literal => simp [juxtapositions, gaps, depthAfter?, endsOperand, startsOperand]
  | name n => simp [juxtapositions, gaps, depthAfter?, endsOperand, startsOperand]
  | apply f _ ih =>
    simpa [juxtapositions, gaps, depthAfter?, endsOperand, startsOperand] using ih rest depth
  | group _ ih =>
    simpa [juxtapositions, gaps, depthAfter?, endsOperand, startsOperand]
      using ih (.closing :: rest) (depth + 1)
  | binary op _ _ ihl ihr =>
    obtain ⟨hjuxl, hgapl, hdepthl⟩ := ihl (.operator op :: (_ ++ rest)) depth
    rw [List.append_assoc, List.cons_append, hjuxl, hgapl, hdepthl]
    simpa [juxtapositions, gaps, depthAfter?, endsOperand, startsOperand] using ihr rest depth

/-- An operand has just ended inside `depth` brackets: the brackets hold an expression so far, and
with any expression in their place an operand has just ended outside them. -/
def OperandEnded : Nat → List Token → Prop
  | 0, front => LooselyGrammatical front
  | depth + 1, front =>
    ∃ outer inner, front = outer ++ .opening :: inner ∧ LooselyGrammatical inner ∧
      ∀ operand, LooselyGrammatical operand → OperandEnded depth (outer ++ operand)

/-- What has been read so far, if it has neither juxtapositions nor gaps: an operand has just
ended, or any expression may follow as the next operand. -/
def Reached : Bool → Nat → List Token → Prop
  | true, depth, front => OperandEnded depth front
  | false, depth, front =>
    ∀ operand, LooselyGrammatical operand → OperandEnded depth (front ++ operand)

/-- Behind an operand, an operator waits for the next one. -/
theorem OperandEnded.operator {depth : Nat} {front : List Token} (h : OperandEnded depth front)
    (op : Operator) : Reached false depth (front ++ [.operator op]) := by
  intro operand hoperand
  rw [List.append_assoc, List.singleton_append]
  cases depth with
  | zero => exact .binary op h hoperand
  | succ depth =>
    obtain ⟨outer, inner, rfl, hinner, houter⟩ := h
    exact ⟨outer, _, by simp, .binary op hinner hoperand, houter⟩

/-- One more token, at which there is neither a juxtaposition nor a gap. -/
theorem Reached.snoc {ended : Bool} {depth after : Nat} {front : List Token} {token : Token}
    (h : Reached ended depth front) (hdepth : depthAfter? depth [token] = some after)
    (hjux : (ended && token.startsOperand) = false)
    (hgap : (!ended && !token.startsOperand) = false) :
    Reached token.endsOperand after (front ++ [token]) := by
  cases ended with
  | false =>
    -- no operand has just ended, so one starts here
    cases token with
    | number literal => cases hdepth; exact h _ (.number literal)
    | name n => cases hdepth; exact h _ (.name n)
    | function f =>
      cases hdepth
      intro operand hoperand
      simpa using h _ (.apply f hoperand)
    | opening =>
      cases hdepth
      intro operand hoperand
      exact ⟨front, operand, by simp, hoperand, h⟩
    | operator op => cases hgap
    | closing => cases hgap
  | true =>
    cases token with
    | operator op => cases hdepth; exact OperandEnded.operator h op
    | closing =>
      cases depth with
      | zero => cases hdepth
      | succ depth =>
        cases hdepth
        obtain ⟨outer, inner, rfl, hinner, houter⟩ := h
        rw [List.append_assoc]
        exact houter _ (.group hinner)
    | _ => cases hjux

/-- A sequence without juxtapositions and gaps completes what has been read before it. -/
theorem Reached.looselyGrammatical {ended : Bool} {depth : Nat} {front rest : List Token}
    (h : Reached ended depth front) (hdepth : depthAfter? depth rest = some 0)
    (hjux : juxtapositions ended rest = 0) (hgap : gaps ended rest = 0) :
    LooselyGrammatical (front ++ rest) := by
  induction rest generalizing ended depth front with
  | nil =>
    cases ended with
    | false => cases hgap
    | true =>
      cases hdepth
      rw [List.append_nil]
      exact h
  | cons token rest ih =>
    rw [depthAfter?_cons] at hdepth
    obtain ⟨after, hstep, hrest⟩ := Option.bind_eq_some_iff.mp hdepth
    simp only [juxtapositions, gaps, Nat.add_eq_zero_iff, Bool.toNat_eq_zero] at hjux hgap
    simpa using ih (h.snoc hstep hjux.1 hgap.1) hrest hjux.2 hgap.2

/-- The expressions in the loose sense are exactly the sequences whose brackets match and in which
no operand stands directly behind another and none is missing. -/
theorem looselyGrammatical_iff {tokens : List Token} :
    LooselyGrammatical tokens ↔
      balanced tokens = true ∧ juxtapositions false tokens = 0 ∧ gaps false tokens = 0 := by
  constructor
  · intro h
    obtain ⟨hjux, hgap, hdepth⟩ := h.append [] 0
    rw [List.append_nil] at hjux hgap hdepth
    exact ⟨by simp [balanced, hdepth, depthAfter?], hjux, hgap⟩
  · rintro ⟨hbalanced, hjux, hgap⟩
    have hstart : Reached false 0 [] := fun operand hoperand => hoperand
    exact hstart.looselyGrammatical (by simpa [balanced] using hbalanced) hjux hgap

/-- No expression is empty. -/
theorem LooselyGrammatical.ne_nil {tokens : List Token} (h : LooselyGrammatical tokens) :
    tokens ≠ [] := by
  cases h <;> simp

/-- A function in front of an expression that starts with a bracket applies to what this bracket
holds. -/
theorem Grammatical.call_of_head? (f : Builtin) {tokens : List Token} (h : Grammatical tokens)
    (hhead : tokens.head? = some .opening) : Grammatical (.function f :: tokens) := by
  induction h with
  | number literal => cases hhead
  | name n => cases hhead
  | call g argument => cases hhead
  | group inner => exact .call f inner
  | binary op hl hr ihl =>
    have hleft := ihl (by rwa [List.head?_append_of_ne_nil _ hl.loosely.ne_nil] at hhead)
    exact .binary op hleft hr

/-- The brackets of calls in an expression, and in what follows it. -/
theorem Grammatical.callsBracketed_append {tokens : List Token} (h : Grammatical tokens)
    (rest : List Token) : callsBracketed (tokens ++ rest) = callsBracketed rest := by
  induction h generalizing rest with
  | number literal => rfl
  | name n => rfl
  | call f _ ih => simpa [callsBracketed] using ih (.closing :: rest)
  | group _ ih => simpa [callsBracketed] using ih (.closing :: rest)
  | binary op _ _ ihl ihr =>
    rw [List.append_assoc, ihl, List.cons_append, callsBracketed, ihr]
    simp

/-- In an expression in the loose sense whose calls all have brackets, the brackets around
arguments are those of the grammar. -/
theorem LooselyGrammatical.grammatical_of_callsBracketed {tokens : List Token}
    (h : LooselyGrammatical tokens) {rest : List Token}
    (hcalls : callsBracketed (tokens ++ rest) = true) :
    Grammatical tokens ∧ callsBracketed rest = true := by
  induction h generalizing rest with
  | number literal => exact ⟨.number literal, hcalls⟩
  | name n => exact ⟨.name n, hcalls⟩
  | apply f argument ih =>
    rw [List.cons_append, callsBracketed, Bool.and_eq_true, beq_iff_eq,
      List.head?_append_of_ne_nil _ argument.ne_nil] at hcalls
    obtain ⟨hargument, hrest⟩ := ih hcalls.2
    exact ⟨hargument.call_of_head? f hcalls.1, hrest⟩
  | group _ ih =>
    simp only [List.cons_append, List.append_assoc, callsBracketed] at hcalls
    obtain ⟨hinner, hrest⟩ := ih hcalls
    exact ⟨.group hinner, hrest⟩
  | binary op _ _ ihl ihr =>
    rw [List.append_assoc] at hcalls
    obtain ⟨hleft, htail⟩ := ihl hcalls
    obtain ⟨hright, hrest⟩ := ihr htail
    exact ⟨.binary op hleft hright, hrest⟩

/-- The expressions are exactly the sequences whose brackets match, in which no operand stands
directly behind another, none is missing, and every function has brackets behind it. -/
theorem grammatical_iff {tokens : List Token} :
    Grammatical tokens ↔
      (balanced tokens = true ∧ juxtapositions false tokens = 0 ∧ gaps false tokens = 0) ∧
        callsBracketed tokens = true := by
  rw [← looselyGrammatical_iff]
  constructor
  · intro h
    exact ⟨h.loosely, by simpa [callsBracketed] using h.callsBracketed_append []⟩
  · rintro ⟨hloose, hcalls⟩
    rw [← List.append_nil tokens] at hcalls
    exact (hloose.grammatical_of_callsBracketed hcalls).1

/-- Whether a sequence of tokens is an expression is decided from neighbouring tokens. -/
instance : DecidablePred Grammatical := fun _ =>
  decidable_of_iff _ grammatical_iff.symm

end Calculator
