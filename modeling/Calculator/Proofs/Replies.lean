import Calculator.Proofs.Courses
import Calculator.Proofs.Truncation

/-!
# Replies

To each expression a session replies with a value or an error, and counts. What the evaluation of
a line comes to is separated here from what the session makes of it.
-/

namespace Calculator

open Conversation
open Reporting (fault?)

namespace Session

section Evaluation

variable {m : Type → Type} [Monad m] [Journal m] [Terminal m]

/-- What reading an expression, asking for the values of its variables and evaluating it come to.
The postfix order, if it is to be shown, is written on the way. -/
def evaluation (s : Session) (text : String) : m (Except Error Float) := do
  match ← Noted.read text with
  | .error e => return .error (.brackets e)
  | .ok x =>
    match ← s.writeRpn x with
    | .error fault => return .error (.source (.fault fault))
    | .ok () => x.evaluateFrom s.source

/-- A line is counted and evaluated, and then the outcome is written. -/
theorem respond_eq [LawfulMonad m] (s : Session) (text : String) :
    (s.respond text : m _) =
      s.countEvaluated.evaluation text >>= s.countEvaluated.writeOutcome text := by
  simp only [respond, evaluation, bind_assoc]
  congr 1
  funext reading
  cases reading with
  | error e => simp [writeOutcome]
  | ok x =>
    simp only [bind_assoc]
    congr 1
    funext answer
    cases answer with
    | error fault => simp [writeOutcome]
    | ok _ => rfl

/-- An error that is no fault of the terminal is written and counted. -/
theorem writeOutcome_error {e : Error} (hfault : e.fault? = none) (s : Session) (text : String) :
    (s.writeOutcome text (.error e) : m _) = s.writeError text e := by
  cases e with
  | source e =>
    cases e with
    | fault fault => cases hfault
    | _ => rfl
  | _ => rfl

end Evaluation

/-- What is written before the outcome of a line: its postfix order, if the options ask for it and
its brackets match. -/
def Options.rpnLine? (o : Options) (text : String) : Option String :=
  match Expression.ofText text with
  | .ok x => if o.showRpn then some ("postfix: " ++ Token.spaced x.rpn ++ "\n") else none
  | .error _ => none

/-- What is written for the outcome of an expression. -/
def reply : Except Error Float → String
  | .ok value => "=> " ++ Number.text value ++ "\n"
  | .error e => e.message ++ "\n"

/-- Counts expressions by their outcomes: each as evaluated, and those without a value as failed. -/
def counting (s : Session) (outcomes : List (Except Error Float)) : Session :=
  { s with
    summary.evaluated := s.summary.evaluated + outcomes.length
    summary.failed := s.summary.failed + outcomes.countP fun outcome => !outcome.isOk }

/-- Outcomes are counted one after the other. -/
theorem counting_append (s : Session) (first second : List (Except Error Float)) :
    s.counting (first ++ second) = (s.counting first).counting second := by
  simp [counting, Nat.add_assoc]

@[simp]
theorem options_counting (s : Session) (outcomes : List (Except Error Float)) :
    (s.counting outcomes).options = s.options := rfl

/-- An outcome that is no fault of the terminal is written and counted. -/
theorem writeOutcome_eq {outcome : Except Error Float} (hfault : fault? outcome = none)
    (s : Session) (text : String) :
    (s.countEvaluated.writeOutcome text outcome : Conversation _) =
      Terminal.write (reply outcome) >>= fun written =>
        pure (s.counting [outcome], written.map fun () => outcome.toOption) := by
  cases outcome with
  | ok value => rfl
  | error e =>
    rw [writeOutcome_error hfault]
    rfl

/-- What is said before the outcome of a line. -/
def Options.announced (o : Options) (text : String) : List Exchange :=
  (o.rpnLine? text).toList.map fun line => .said line (.ok ())

/-- The evaluation of a line whose brackets do not match says nothing and asks for nothing. -/
theorem course_evaluation_error {text : String} {e : BracketError}
    (hx : Expression.ofText text = .error e) (s : Session) (unread : List UInt8) :
    (s.evaluation text : Conversation _).Course unread (s.options.announced text)
      (.error (.brackets e)) unread := by
  simp only [evaluation, Noted.read_eq, pure_bind, hx, Options.announced, Options.rpnLine?]
  exact course_pure _ unread

/-- The evaluation of a line whose brackets match shows the postfix order, if the options ask for
it, and then asks for values. -/
theorem course_evaluation_ok {text : String} {x : Expression} (hx : Expression.ofText text = .ok x)
    {s : Session} {unread left : List UInt8} {exchanges : List Exchange}
    {outcome : Except Error Float}
    (hcourse : (x.evaluateFrom s.source : Conversation _).Course unread exchanges outcome left) :
    (s.evaluation text : Conversation _).Course unread (s.options.announced text ++ exchanges)
      outcome left := by
  have hrpn : (s.writeRpn x : Conversation _).Course unread (s.options.announced text) (.ok ())
      unread := by
    simp only [writeRpn, Options.announced, Options.rpnLine?, hx]
    split
    · exact course_write _ unread
    · exact course_pure _ unread
  simp only [evaluation, Noted.read_eq, pure_bind, hx]
  exact hrpn.bind hcourse

/-- What happens to a line is what happens in its evaluation, with the reply behind it. -/
theorem course_respond {s : Session} {text : String} {unread left : List UInt8}
    {exchanges : List Exchange} {outcome : Except Error Float} (hfault : fault? outcome = none)
    (hcourse : (s.countEvaluated.evaluation text : Conversation _).Course unread exchanges
      outcome left) :
    (s.respond text : Conversation _).Course unread
      (exchanges ++ [.said (reply outcome) (.ok ())])
      (s.counting [outcome], .ok outcome.toOption) left := by
  rw [respond_eq]
  refine hcourse.bind ?_
  rw [writeOutcome_eq hfault]
  exact (course_write (reply outcome) left).bind (course_pure _ left)

end Session

end Calculator
