import Calculator.Proofs.OperandCount
import Calculator.Proofs.TreeErrors
import Mathlib.Data.List.Forall2

/-!
# Trees read back from postfix order

The moves of the stack machine can be made on trees as well: an operand puts a leaf on the stack,
and an operator or a function joins the trees that it applies to. The trees on the stack always list
exactly what has been read, so a sequence is the postorder of at most one tree, and making the moves
finds it. The machine on numbers never gets further than the moves on trees, since each of its
numbers is the value of the tree in the same place. So only the postorder of a tree has a value.
-/

namespace Calculator

open Token

/-- What takes tokens one by one and does nothing at brackets does the same without them. -/
theorem Token.foldlM_unbracketed {m : Type → Type} [Monad m] [LawfulMonad m] {σ : Type}
    {take : σ → Token → m σ}
    (hbracket : ∀ state token, token.isBracket = true → take state token = pure state) (state : σ)
    (tokens : List Token) : (unbracketed tokens).foldlM take state = tokens.foldlM take state := by
  rw [unbracketed, List.foldlM_filter]
  congr 1
  funext state token
  cases htoken : token.isBracket with
  | true => simp [hbracket state token htoken]
  | false => simp

namespace Tree

/-- Takes one token of a sequence in postfix order on a stack of trees; the top of the stack is its
head. Brackets do nothing. -/
def push (stack : List Tree) : Token → Option (List Tree)
  | .number literal => some (.number literal :: stack)
  | .name n => some (.name n :: stack)
  | .operator op =>
    match stack with
    | right :: left :: rest => some (.binary op left right :: rest)
    | _ => none
  | .function f =>
    match stack with
    | argument :: rest => some (.call f argument :: rest)
    | [] => none
  | .opening | .closing => some stack

/-- Takes a sequence of tokens. -/
def build (stack : List Tree) (tokens : List Token) : Option (List Tree) :=
  tokens.foldlM push stack

/-- The tree that a sequence lists in postorder if its brackets are left out; none if there is no
such tree. -/
def ofPostorder? (tokens : List Token) : Option Tree :=
  match build [] tokens with
  | some [t] => some t
  | _ => none

/-- All that the trees of a stack list, from the bottom up. -/
def listing (stack : List Tree) : List Token :=
  stack.reverse.flatMap postorder

/-- The tree on top is listed last. -/
@[simp]
theorem listing_cons (t : Tree) (stack : List Tree) :
    listing (t :: stack) = listing stack ++ t.postorder := by
  simp [listing]

/-- A sequence is taken by its first token and then by the others. -/
theorem build_cons_eq_some_iff {stack after : List Tree} {token : Token} {tokens : List Token} :
    build stack (token :: tokens) = some after ↔
      ∃ middle, push stack token = some middle ∧ build middle tokens = some after := by
  rw [build, List.foldlM_cons]
  exact Option.bind_eq_some_iff

/-- The tokens of a sequence can be taken in two parts. -/
theorem build_append (stack : List Tree) (first second : List Token) :
    build stack (first ++ second) =
      (build stack first).bind fun middle => build middle second :=
  List.foldlM_append

/-- A token is listed behind all that has been listed before, unless it is a bracket. -/
theorem listing_push {stack after : List Tree} {token : Token} (h : push stack token = some after) :
    listing after = listing stack ++ unbracketed [token] := by
  cases token with
  | number literal =>
    cases h
    simp [postorder, unbracketed, isBracket]
  | name n =>
    cases h
    simp [postorder, unbracketed, isBracket]
  | operator op =>
    cases stack with
    | nil => cases h
    | cons right stack =>
      cases stack with
      | nil => cases h
      | cons left rest =>
        cases h
        simp [postorder, unbracketed, isBracket]
  | function f =>
    cases stack with
    | nil => cases h
    | cons argument rest =>
      cases h
      simp [postorder, unbracketed, isBracket]
  | opening =>
    cases h
    simp [unbracketed, isBracket]
  | closing =>
    cases h
    simp [unbracketed, isBracket]

/-- The trees that are built list the tokens behind all that has been listed before. -/
theorem listing_build {stack after : List Tree} {tokens : List Token}
    (h : build stack tokens = some after) :
    listing after = listing stack ++ unbracketed tokens := by
  induction tokens generalizing stack with
  | nil =>
    cases h
    simp [unbracketed]
  | cons token tokens ih =>
    obtain ⟨middle, hpush, hbuild⟩ := build_cons_eq_some_iff.mp h
    have hfirst := listing_push hpush
    have hrest := ih hbuild
    rw [unbracketed_cons, ← List.append_assoc, ← hfirst, hrest]

/-- Brackets make no difference to the trees. -/
theorem build_unbracketed (stack : List Tree) (tokens : List Token) :
    build stack (unbracketed tokens) = build stack tokens := by
  apply foldlM_unbracketed
  intro stack token hbracket
  cases token with
  | opening => rfl
  | closing => rfl
  | _ => cases hbracket

/-- The postorder of a tree puts the tree on top of whatever was there before. -/
theorem build_postorder (t : Tree) (stack : List Tree) :
    build stack t.postorder = some (t :: stack) := by
  induction t generalizing stack with
  | number literal => rfl
  | name n => rfl
  | call f argument ih =>
    rw [postorder, build_append, ih]
    rfl
  | binary op left right ihl ihr =>
    rw [postorder, build_append, build_append, ihl, Option.bind_some, ihr]
    rfl

/-- The tree that is read back is the one that the sequence lists, and no other. -/
theorem ofPostorder?_eq_some_iff {tokens : List Token} {t : Tree} :
    ofPostorder? tokens = some t ↔ unbracketed tokens = t.postorder := by
  constructor
  · intro h
    have hbuild : build [] tokens = some [t] := by
      unfold ofPostorder? at h
      split at h
      · rename_i other hother
        rw [hother, Option.some.inj h]
      · cases h
    simpa using (listing_build hbuild).symm
  · intro h
    rw [ofPostorder?, ← build_unbracketed, h, build_postorder]

/-- Whether a sequence lists a tree is decided by reading the tree back. -/
instance (tokens : List Token) : Decidable (∃ t : Tree, unbracketed tokens = t.postorder) :=
  decidable_of_iff ((ofPostorder? tokens).isSome = true) (by
    simp only [Option.isSome_iff_exists, ofPostorder?_eq_some_iff])

end Tree

namespace StackMachine

/-- Each number on a stack is the value of the tree in the same place. -/
abbrev Values (b : Bindings) : List Tree → List Float → Prop :=
  List.Forall₂ fun t value => t.value b = .ok value

/-- Whatever move the machine makes can be made with trees, and the numbers stay the values of the
trees. -/
theorem Values.push {b : Bindings} {trees : List Tree} {stack after : List Float} {token : Token}
    (h : Values b trees stack) (hmoves : Moves b stack token after) :
    ∃ built, Tree.push trees token = some built ∧ Values b built after := by
  cases hmoves with
  | @number literal _ _ hvalue => exact ⟨.number literal :: trees, rfl, .cons hvalue h⟩
  | @name n _ _ hvalue => exact ⟨.name n :: trees, rfl, .cons hvalue h⟩
  | @operator op _ _ value _ happly =>
    cases h with
    | @cons right _ _ _ hright h =>
      cases h with
      | @cons left _ others _ hleft hrest =>
        have hvalue : (Tree.binary op left right).value b = .ok value := by
          simpa [Tree.value, hleft, hright] using happly
        exact ⟨.binary op left right :: others, rfl, .cons hvalue hrest⟩
  | @function f _ value _ happly =>
    cases h with
    | @cons argument _ others _ hargument hrest =>
      have hvalue : (Tree.call f argument).value b = .ok value := by
        simpa [Tree.value, hargument] using happly
      exact ⟨.call f argument :: others, rfl, .cons hvalue hrest⟩
  | opening => exact ⟨trees, rfl, h⟩
  | closing => exact ⟨trees, rfl, h⟩

/-- As far as the machine gets, trees can be built, and the numbers are the values of the trees. -/
theorem Values.build {b : Bindings} {trees : List Tree} {stack after : List Float}
    {tokens : List Token} (h : Values b trees stack) (hrun : run b stack tokens = .ok after) :
    ∃ built, Tree.build trees tokens = some built ∧ Values b built after := by
  induction tokens generalizing trees stack with
  | nil =>
    cases hrun
    exact ⟨trees, rfl, h⟩
  | cons token tokens ih =>
    obtain ⟨middle, hmoves, hrest⟩ := run_cons_eq_ok_iff.mp hrun
    obtain ⟨first, hpush, hfirst⟩ := h.push hmoves
    obtain ⟨built, hbuild, hbuilt⟩ := ih hfirst hrest
    exact ⟨built, Tree.build_cons_eq_some_iff.mpr ⟨first, hpush, hbuild⟩, hbuilt⟩

end StackMachine

end Calculator
