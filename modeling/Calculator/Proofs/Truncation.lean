import Calculator.Proofs.Faults
import Calculator.Proofs.Prompts

/-!
# Truncated output

A session reports the first fault of its terminal and does nothing afterwards. So an output that
takes only some bytes gets the first bytes of what the session would have written, and no answer
is read if its prompt is not written whole.
-/

namespace Calculator

open Conversation
open Reporting (fault? counted)

/-- A text is written, or that is the fault. -/
theorem Conversation.heedsFaults_write (text : String) :
    (Terminal.write text : Conversation _).HeedsFaults :=
  ⟨rfl, fun fault => ⟨.error fault, rfl, rfl, atLeast_nothing _⟩⟩

namespace ValueSource

theorem heedsFaults_prompting (name : String) : (prompting name : Conversation _).HeedsFaults := by
  refine ⟨⟨?_, fun fault => ⟨_, rfl, rfl⟩⟩, fun fault => ⟨_, rfl, rfl, atLeast_nothing _⟩⟩
  intro answer
  cases answer with
  | none => rfl
  | some line =>
    show fault? (readAnswer name line) = none
    simp only [readAnswer]
    split <;> rfl

/-- The first fault ends the collection of values. -/
theorem heedsFaults_collect {source : ValueSource Conversation}
    (h : ∀ name, (source name).HeedsFaults) (b : Bindings) (names : List String) :
    (collect source b names).HeedsFaults := by
  induction names generalizing b with
  | nil => rfl
  | cons name names ih =>
    refine (h name).bind ?_ ?_
    · intro answer hnone
      cases answer with
      | error e => exact hnone
      | ok value => exact ih _
    · intro fault answer hfault
      cases answer with
      | error e => exact ⟨.error e, rfl, hfault, fun _ _ => atLeast_nothing _⟩
      | ok value => cases hfault

end ValueSource

theorem Expression.heedsFaults_evaluateFrom {source : ValueSource Conversation}
    (h : ∀ name, (source name).HeedsFaults) (x : Expression) :
    (x.evaluateFrom source).HeedsFaults := by
  rw [evaluateFrom_eq]
  refine (ValueSource.heedsFaults_collect h _ _).bind ?_ ?_
  · intro answer hnone
    cases answer with
    | error e => exact hnone
    | ok b =>
      show fault? ((x.value b).mapError Error.evaluation) = none
      cases x.value b <;> rfl
  · intro fault answer hfault
    cases answer with
    | error e => exact ⟨.error (.source e), rfl, hfault, fun _ _ => atLeast_nothing _⟩
    | ok b => cases hfault

namespace Session

theorem heedsFaults_source (s : Session) (name : String) :
    (s.source name : Conversation _).HeedsFaults := by
  obtain ⟨value, h⟩ | h | h := source_cases s name
  · rw [h]
    rfl
  · rw [h]
    rfl
  · rw [h]
    exact ValueSource.heedsFaults_prompting name

theorem heedsFaults_writeError (s : Session) (text : String) (e : Error) :
    (s.writeError text e : Conversation _).HeedsFaults :=
  ⟨rfl, fun _ => ⟨_, rfl, rfl, .refl _⟩⟩

/-- An error is counted. -/
theorem atLeast_writeError (s : Session) (text : String) (e : Error) :
    (s.writeError text e : Conversation _).AtLeast s.summary :=
  fun _ => ⟨Nat.le_refl _, Nat.le_succ _⟩

theorem heedsFaults_writeOutcome (s : Session) (text : String) {outcome : Except Error Float}
    (h : fault? outcome = none) : (s.writeOutcome text outcome : Conversation _).HeedsFaults := by
  unfold writeOutcome
  split
  · exact ⟨rfl, fun _ => ⟨_, rfl, rfl, .refl _⟩⟩
  · cases h
  · exact heedsFaults_writeError s text _

theorem atLeast_writeOutcome (s : Session) (text : String) (outcome : Except Error Float) :
    (s.writeOutcome text outcome : Conversation _).AtLeast s.summary := by
  unfold writeOutcome
  split
  · exact fun _ => .refl _
  · exact .refl _
  · exact atLeast_writeError s text _

theorem heedsFaults_writeRpn (s : Session) (x : Expression) :
    (s.writeRpn x : Conversation _).HeedsFaults := by
  unfold writeRpn
  split
  · exact heedsFaults_write _
  · rfl

/-- A fault behind an outcome is returned and not written. -/
theorem writeOutcome_of_fault (s : Session) (text : String) {outcome : Except Error Float}
    {fault : Fault} (h : fault? outcome = some fault) :
    (s.writeOutcome text outcome : Conversation _) = done (s, .error fault) := by
  cases outcome with
  | ok value => cases h
  | error e =>
    obtain rfl := Error.fault?_eq_some_iff.mp h
    rfl

/-- Behind the postfix order, if it was written, an expression is evaluated. -/
theorem atLeast_evaluated (s : Session) (text : String) (x : Expression)
    (answer : Except Fault Unit) :
    (match answer with
      | .error fault => pure (s, .error fault)
      | .ok () => do s.writeOutcome text (← x.evaluateFrom s.source) :
      Conversation (Session × Except Fault (Option Float))).AtLeast s.summary := by
  cases answer with
  | error fault => exact .refl _
  | ok _ => exact (atLeast_nothing _).bind fun outcome _ => atLeast_writeOutcome s text outcome

theorem atLeast_respond (s : Session) (text : String) :
    (s.respond text : Conversation _).AtLeast s.summary := by
  have hcounted : s.summary.NoMore s.countEvaluated.summary := ⟨Nat.le_succ _, Nat.le_refl _⟩
  refine AtLeast.mono ?_ hcounted
  simp only [respond, Noted.read_eq, pure_bind]
  cases Expression.ofText text with
  | error e => exact atLeast_writeError _ _ _
  | ok x => exact (atLeast_nothing _).bind fun answer _ => atLeast_evaluated _ text x answer

/-- The first fault ends the evaluation of a line. -/
theorem heedsFaults_respond (s : Session) (text : String) :
    (s.respond text : Conversation _).HeedsFaults := by
  simp only [respond, Noted.read_eq, pure_bind]
  cases Expression.ofText text with
  | error e => exact heedsFaults_writeError _ _ _
  | ok x =>
    -- a fault is met while the postfix order is written, or later
    refine (heedsFaults_writeRpn _ x).bind ?_ ?_
    · intro answer hnone
      cases answer with
      | error fault => cases hnone
      | ok _ =>
        refine (Expression.heedsFaults_evaluateFrom (heedsFaults_source _) x).bind ?_ ?_
        · exact fun outcome hnone => heedsFaults_writeOutcome _ text hnone
        · intro fault outcome hfault
          exact ⟨_, writeOutcome_of_fault _ text hfault, rfl, fun whole _ =>
            atLeast_writeOutcome _ text whole⟩
    · intro fault answer hfault
      cases answer with
      | error _ => exact ⟨_, rfl, hfault, fun whole _ => atLeast_evaluated _ text x whole⟩
      | ok _ => cases hfault

theorem atLeast_batch (s : Session) (lines : List String) :
    (s.batch lines : Conversation _).AtLeast s.summary := by
  induction lines generalizing s with
  | nil => exact .refl _
  | cons line lines ih =>
    simp only [batch]
    split
    · exact ih s
    · refine (atLeast_respond s _).bind_counting ?_
      rintro ⟨t, outcome⟩
      cases outcome with
      | error fault => exact .refl _
      | ok _ => exact ih t

/-- The first fault ends a batch. -/
theorem heedsFaults_batch (s : Session) (lines : List String) :
    (s.batch lines : Conversation _).HeedsFaults := by
  induction lines generalizing s with
  | nil => rfl
  | cons line lines ih =>
    simp only [batch]
    split
    · exact ih s
    · refine (heedsFaults_respond s _).bind_counting ?_ ?_ ?_
      · rintro ⟨t, outcome⟩ hnone
        cases outcome with
        | error fault => cases hnone
        | ok _ => exact ih t
      · rintro fault ⟨t, outcome⟩ hfault
        cases outcome with
        | error _ => exact ⟨_, rfl, hfault, rfl⟩
        | ok _ => cases hfault
      · rintro ⟨t, outcome⟩
        cases outcome with
        | error fault => exact .refl _
        | ok _ => exact atLeast_batch t lines

theorem counted_after (result : Session × Except Fault (Option Float)) :
    counted (Turn.after result) = counted result := by
  obtain ⟨t, outcome⟩ := result
  cases outcome <;> rfl

theorem fault?_after (result : Session × Except Fault (Option Float)) :
    fault? (Turn.after result) = fault? result := by
  obtain ⟨t, outcome⟩ := result
  cases outcome <;> rfl

theorem atLeast_after (result : Session × Except Fault (Option Float)) :
    (done (Turn.after result)).AtLeast (counted result) := by
  rw [← counted_after]
  exact .refl _

theorem atLeast_turn (s : Session) : (s.turn : Conversation _).AtLeast s.summary := by
  obtain ⟨next, hturn, hfail, hline⟩ := exists_turn_eq_read s
  rw [hturn]
  intro answer
  cases answer with
  | error fault =>
    rw [hfail]
    exact .refl _
  | ok line =>
    obtain h | h | ⟨text, h⟩ := hline line
    · rw [h]
      exact .refl _
    · rw [h]
      exact .refl _
    · rw [h]
      exact (atLeast_respond s text).bind_counting atLeast_after

/-- The first fault ends a turn of the interactive loop and the loop. -/
theorem heedsFaults_turn (s : Session) : (s.turn : Conversation _).HeedsFaults := by
  obtain ⟨next, hturn, hfail, hline⟩ := exists_turn_eq_read s
  rw [hturn]
  refine ⟨fun line => ?_, fun fault => ⟨_, hfail fault, rfl⟩⟩
  obtain h | h | ⟨text, h⟩ := hline line
  · rw [h]
    rfl
  · rw [h]
    rfl
  · rw [h]
    refine (heedsFaults_respond s text).bind_counting ?_ ?_ atLeast_after
    · exact fun result hnone => (fault?_after result).trans hnone
    · exact fun fault result hfault =>
        ⟨_, rfl, (fault?_after result).trans hfault, counted_after result⟩

theorem atLeast_turns (n : Nat) (s : Session) :
    (turns n s : Conversation _).AtLeast s.summary := by
  induction n generalizing s with
  | zero => exact .refl _
  | succ n ih =>
    refine (atLeast_turn s).bind_counting ?_
    intro next
    cases next with
    | next t => exact ih t
    | stop t outcome => exact .refl _

/-- The first fault ends the interactive loop. -/
theorem heedsFaults_turns (n : Nat) (s : Session) : (turns n s : Conversation _).HeedsFaults := by
  induction n generalizing s with
  | zero => rfl
  | succ n ih =>
    refine (heedsFaults_turn s).bind_counting ?_ ?_ ?_
    · intro next hnone
      cases next with
      | next t => exact ih t
      | stop t outcome => exact hnone
    · intro fault next hfault
      cases next with
      | next t => cases hfault
      | stop t outcome => exact ⟨_, rfl, hfault, rfl⟩
    · intro next
      cases next with
      | next t => exact atLeast_turns n t
      | stop t outcome => exact .refl _

end Session

/-- With room for `n` bytes of output, the interactive loop and a batch do the same as without a
limit, up to where the room ends. What is read, apart from a line at the beginning of each turn of
the loop, are answers, each directly behind a prompt that was written whole. -/
theorem output_cut_off (s : Session) (n : Nat) (unread written : List UInt8) :
    (∃ output, CutOff n ⟨unread, written, none⟩ output
      (Id.run ((s.interact : StateT Console Id _).run ⟨unread, written, none⟩))
      (Id.run ((s.interact : StateT Console Id _).run ⟨unread, written, some n⟩))) ∧
    (∀ lines, ∃ output, CutOff n ⟨unread, written, none⟩ output
      (Id.run ((s.batch lines : StateT Console Id _).run ⟨unread, written, none⟩))
      (Id.run ((s.batch lines : StateT Console Id _).run ⟨unread, written, some n⟩))) ∧
    (∀ c, (s.loop c).on c = Id.run ((s.interact : StateT Console Id _).run c) ∧
      Session.TurnByTurn s c ((s.loop c).transcript c)) ∧
    ∀ lines c, (s.batch lines : Conversation _).on c =
        Id.run ((s.batch lines : StateT Console Id _).run c) ∧
      Prompted ((s.batch lines : Conversation _).transcript c) := by
  refine ⟨?_, ?_, ?_, ?_⟩
  · have hloop : s.loop ⟨unread, written, some n⟩ = s.loop ⟨unread, written, none⟩ := rfl
    rw [← Session.on_loop, ← Session.on_loop, hloop]
    exact (Session.heedsFaults_turns _ s).cutOff n unread written
  · intro lines
    have hcut := (Session.heedsFaults_batch s lines).cutOff n unread written
    rw [Session.on_batch] at hcut
    exact hcut
  · exact fun c => ⟨Session.on_loop s c, Session.turnByTurn_loop s c⟩
  · exact fun lines c => ⟨by rw [Session.on_batch]; rfl, Session.readsPrompted_batch s lines c⟩

end Calculator
