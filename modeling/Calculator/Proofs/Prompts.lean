import Calculator.Proofs.Conversation

/-!
# Prompts

The transcript of a conversation lists what is written and read in order. In the evaluation of a
line nothing is read but answers, and each answer directly behind a prompt that was written whole.
-/

namespace Calculator

open Conversation

/-- What happens once between a conversation and a terminal. -/
inductive Exchange where
  /-- A text was written, or only a part of it. -/
  | said (text : String) (outcome : Except Fault Unit)
  /-- A line was read. -/
  | heard (answer : Except Fault (Option String))

/-- What happens in order when a conversation is held on a console. -/
def Conversation.transcript {α : Type} : Conversation α → Console → List Exchange
  | done _, _ => []
  | read next, c => .heard c.readLine.1 :: (next c.readLine.1).transcript c.readLine.2
  | write text next, c =>
    .said text (c.write text).1 :: (next (c.write text).1).transcript (c.write text).2

theorem Conversation.transcript_bind {α β : Type} (t : Conversation α) (f : α → Conversation β)
    (c : Console) :
    (t >>= f).transcript c = t.transcript c ++ (f (t.on c).1).transcript (t.on c).2 := by
  induction t generalizing c with
  | done a => rfl
  | read next ih => exact congrArg (List.cons _) (ih _ _)
  | write text next ih => exact congrArg (List.cons _) (ih _ _)

/-- Each line that is read comes directly after a prompt that was written whole. -/
inductive Prompted : List Exchange → Prop where
  | nil : Prompted []
  | said {exchanges : List Exchange} (text : String) (outcome : Except Fault Unit)
    (behind : Prompted exchanges) : Prompted (.said text outcome :: exchanges)
  | answered {exchanges : List Exchange} (name : String) (answer : Except Fault (Option String))
    (behind : Prompted exchanges) :
    Prompted (.said (ValueSource.promptText name) (.ok ()) :: .heard answer :: exchanges)

theorem Prompted.append {exchanges others : List Exchange} (h : Prompted exchanges)
    (hothers : Prompted others) : Prompted (exchanges ++ others) := by
  induction h with
  | nil => exact hothers
  | said text outcome _ ih => exact .said text outcome ih
  | answered name answer _ ih => exact .answered name answer ih

/-- On every console each line that a conversation reads comes directly after a prompt that was
written whole. -/
def Conversation.ReadsPrompted {α : Type} (t : Conversation α) : Prop :=
  ∀ c, Prompted (t.transcript c)

namespace Conversation

variable {α β : Type}

theorem readsPrompted_pure (a : α) : (pure a : Conversation α).ReadsPrompted :=
  fun _ => .nil

theorem readsPrompted_write (text : String) :
    (Terminal.write text : Conversation _).ReadsPrompted :=
  fun _ => .said text _ .nil

theorem ReadsPrompted.bind {t : Conversation α} {f : α → Conversation β} (ht : t.ReadsPrompted)
    (hf : ∀ a, (f a).ReadsPrompted) : (t >>= f).ReadsPrompted := by
  intro c
  rw [transcript_bind]
  exact (ht c).append (hf _ _)

/-- A line may be read if a prompt was written whole. -/
theorem readsPrompted_answer (name : String) {f : Except Fault Unit → Conversation α}
    {next : Except Fault (Option String) → Conversation α}
    (hfail : ∀ fault, (f (.error fault)).ReadsPrompted) (hread : f (.ok ()) = read next)
    (hnext : ∀ answer, (next answer).ReadsPrompted) :
    (Terminal.write (ValueSource.promptText name) >>= f).ReadsPrompted := by
  intro c
  show Prompted (.said (ValueSource.promptText name) (c.write (ValueSource.promptText name)).1 ::
    (f (c.write (ValueSource.promptText name)).1).transcript _)
  cases (c.write (ValueSource.promptText name)).1 with
  | error fault => exact .said _ _ (hfail fault _)
  | ok _ =>
    rw [hread]
    exact .answered name _ (hnext _ _)

end Conversation

namespace ValueSource

/-- An answer is read only behind its prompt, and only if that was written whole. -/
theorem readsPrompted_prompting (name : String) :
    (prompting name : Conversation _).ReadsPrompted := by
  refine readsPrompted_answer name (fun fault => readsPrompted_pure _) rfl ?_
  rintro (fault | _ | line) <;> exact readsPrompted_pure _

theorem readsPrompted_collect {source : ValueSource Conversation}
    (h : ∀ name, (source name).ReadsPrompted) (b : Bindings) (names : List String) :
    (collect source b names).ReadsPrompted := by
  induction names generalizing b with
  | nil => exact readsPrompted_pure _
  | cons name names ih =>
    refine (h name).bind ?_
    intro answer
    cases answer with
    | error e => exact readsPrompted_pure _
    | ok value => exact ih _

end ValueSource

theorem Expression.readsPrompted_evaluateFrom {source : ValueSource Conversation}
    (h : ∀ name, (source name).ReadsPrompted) (x : Expression) :
    (x.evaluateFrom source).ReadsPrompted := by
  rw [evaluateFrom_eq]
  refine (ValueSource.readsPrompted_collect h _ _).bind ?_
  intro answer
  cases answer <;> exact readsPrompted_pure _

namespace Session

theorem readsPrompted_source (s : Session) (name : String) :
    (s.source name : Conversation _).ReadsPrompted := by
  obtain ⟨value, h⟩ | h | h := source_cases s name
  · rw [h]
    exact readsPrompted_pure _
  · rw [h]
    exact readsPrompted_pure _
  · rw [h]
    exact ValueSource.readsPrompted_prompting name

theorem readsPrompted_writeError (s : Session) (text : String) (e : Error) :
    (s.writeError text e : Conversation _).ReadsPrompted :=
  (readsPrompted_write _).bind fun _ => readsPrompted_pure _

theorem readsPrompted_writeOutcome (s : Session) (text : String) (outcome : Except Error Float) :
    (s.writeOutcome text outcome : Conversation _).ReadsPrompted := by
  unfold writeOutcome
  split
  · exact (readsPrompted_write _).bind fun _ => readsPrompted_pure _
  · exact readsPrompted_pure _
  · exact readsPrompted_writeError s text _

theorem readsPrompted_respond (s : Session) (text : String) :
    (s.respond text : Conversation _).ReadsPrompted := by
  simp only [respond, Noted.read_eq, pure_bind]
  cases Expression.ofText text with
  | error e => exact readsPrompted_writeError _ _ _
  | ok x =>
    have hrpn : (s.countEvaluated.writeRpn x : Conversation _).ReadsPrompted := by
      unfold writeRpn
      split
      · exact readsPrompted_write _
      · exact readsPrompted_pure _
    refine hrpn.bind ?_
    intro answer
    cases answer with
    | error fault => exact readsPrompted_pure _
    | ok _ =>
      exact (Expression.readsPrompted_evaluateFrom (readsPrompted_source _) x).bind fun outcome =>
        readsPrompted_writeOutcome _ text outcome

/-- A batch reads nothing but answers. -/
theorem readsPrompted_batch (s : Session) (lines : List String) :
    (s.batch lines : Conversation _).ReadsPrompted := by
  induction lines generalizing s with
  | nil => exact readsPrompted_pure _
  | cons line lines ih =>
    simp only [batch]
    split
    · exact ih s
    · refine (readsPrompted_respond s _).bind ?_
      rintro ⟨t, outcome⟩
      cases outcome with
      | error fault => exact readsPrompted_pure _
      | ok _ => exact ih t

/-- A turn of the interactive loop reads a line, and then nothing but answers. -/
theorem transcript_turn (s : Session) (c : Console) :
    ∃ answer exchanges, (s.turn : Conversation _).transcript c = .heard answer :: exchanges ∧
      Prompted exchanges := by
  obtain ⟨next, hturn, hfail, hline⟩ := exists_turn_eq_read s
  rw [hturn]
  refine ⟨_, _, rfl, ?_⟩
  cases c.readLine.1 with
  | error fault =>
    rw [hfail]
    exact .nil
  | ok line =>
    obtain h | h | ⟨text, h⟩ := hline line
    · rw [h]
      exact .nil
    · rw [h]
      exact .nil
    · rw [h]
      exact (readsPrompted_respond s text).bind (fun result => readsPrompted_pure _) _

/-- What happens in the interactive loop, turn by turn: each reads a line, and then nothing but
answers. -/
inductive TurnByTurn : Session → Console → List Exchange → Prop where
  /-- The first turn stops the loop. -/
  | stop {s t : Session} {c after : Console} {outcome : Except Fault Unit}
    {answer : Except Fault (Option String)} {exchanges : List Exchange}
    (first : (s.turn : Conversation Turn).on c = (.stop t outcome, after))
    (heard : (s.turn : Conversation Turn).transcript c = .heard answer :: exchanges)
    (prompted : Prompted exchanges) : TurnByTurn s c (.heard answer :: exchanges)
  /-- Behind the first turn the loop goes on. -/
  | next {s t : Session} {c after : Console} {answer : Except Fault (Option String)}
    {exchanges others : List Exchange}
    (first : (s.turn : Conversation Turn).on c = (.next t, after))
    (heard : (s.turn : Conversation Turn).transcript c = .heard answer :: exchanges)
    (prompted : Prompted exchanges) (later : TurnByTurn t after others) :
    TurnByTurn s c (.heard answer :: exchanges ++ others)

theorem turnByTurn_turns {n : Nat} {s : Session} {c : Console} (h : c.lineCount < n) :
    TurnByTurn s c ((turns n s : Conversation _).transcript c) := by
  induction n generalizing s c with
  | zero => exact absurd h (Nat.not_lt_zero _)
  | succ n ih =>
    obtain ⟨answer, exchanges, hheard, hprompted⟩ := transcript_turn s c
    rw [turns, transcript_bind, hheard]
    cases hturn : (s.turn : Conversation Turn).on c with
    | mk next after =>
      cases next with
      | next t =>
        have hline := lineCount_of_turn hturn
        exact .next hturn hheard hprompted (ih (by omega))
      | stop t outcome =>
        have hnone : (pure (t, outcome) : Conversation _).transcript after = [] := rfl
        simp only [hnone, List.append_nil]
        exact .stop hturn hheard hprompted

/-- In the interactive loop each line is read at the beginning of a turn or as an answer. -/
theorem turnByTurn_loop (s : Session) (c : Console) :
    TurnByTurn s c ((s.loop c).transcript c) :=
  turnByTurn_turns (Nat.lt_succ_self _)

end Session

end Calculator
