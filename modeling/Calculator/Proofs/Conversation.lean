import Calculator.Proofs.Outcome
import Calculator.Session

/-!
# Conversations

A computation over a terminal is the tree of what it asks of the terminal: it reads a line or
writes a text and goes on according to the answer. A session is followed here through all answers
that a terminal could give. On a console the tree is walked down one path, and that is what the
session does there.
-/

namespace Calculator

/-- A computation over a terminal as a tree. -/
inductive Conversation (α : Type) where
  /-- Nothing more is asked. -/
  | done (result : α)
  /-- A line is read. -/
  | read (next : Except Fault (Option String) → Conversation α)
  /-- A text is written. -/
  | write (text : String) (next : Except Fault Unit → Conversation α)

namespace Conversation

variable {α β : Type}

/-- Goes on behind every end of a tree. -/
def bind : Conversation α → (α → Conversation β) → Conversation β
  | done a, f => f a
  | read next, f => read fun answer => (next answer).bind f
  | write text next, f => write text fun outcome => (next outcome).bind f

instance : Monad Conversation where
  pure := done
  bind := bind

instance : LawfulMonad Conversation :=
  LawfulMonad.mk' Conversation
    (fun t => by
      induction t with
      | done a => rfl
      | read next ih => exact congrArg read (funext ih)
      | write text next ih => exact congrArg (write text) (funext ih))
    (fun _ _ => rfl)
    (fun t f g => by
      induction t with
      | done a => rfl
      | read next ih => exact congrArg read (funext ih)
      | write text next ih => exact congrArg (write text) (funext ih))

instance : Terminal Conversation where
  readLine := read done
  write text := write text done

instance : Journal Conversation := ⟨fun _ => done ()⟩

instance : QuietJournal Conversation := ⟨fun _ => rfl⟩

/-- Walks down a tree along the answers of a console. -/
def on : Conversation α → StateT Console Id α
  | done a => fun c => (a, c)
  | read next => fun c => (next c.readLine.1).on c.readLine.2
  | write text next => fun c => (next (c.write text).1).on (c.write text).2

@[simp]
theorem on_pure (a : α) : (pure a : Conversation α).on = pure a := rfl

@[simp]
theorem on_bind (t : Conversation α) (f : α → Conversation β) :
    (t >>= f).on = t.on >>= fun a => (f a).on := by
  funext c
  induction t generalizing c with
  | done a => rfl
  | read next ih => exact ih _ _
  | write text next ih => exact ih _ _

/-- Behind a tree, the rest goes on from where the console is then. -/
theorem on_bind_apply (t : Conversation α) (f : α → Conversation β) (c : Console) :
    (t >>= f).on c = (f (t.on c).1).on (t.on c).2 := by
  rw [on_bind]
  rfl

@[simp]
theorem on_readLine : (Terminal.readLine : Conversation _).on = Terminal.readLine := rfl

@[simp]
theorem on_write (text : String) :
    (Terminal.write text : Conversation _).on = Terminal.write text := rfl

@[simp]
theorem on_note (event : Event) :
    (Journal.note event : Conversation Unit).on = Journal.note event := rfl

end Conversation

/-- A console never has more lines to read than before. -/
theorem Conversation.lineCount_on_le {α : Type} (t : Conversation α) (c : Console) :
    (t.on c).2.lineCount ≤ c.lineCount := by
  induction t generalizing c with
  | done a => exact Nat.le_refl _
  | read next ih =>
    have hread : c.readLine.2.lineCount ≤ c.lineCount := by
      by_cases hend : c.unread = []
      · simp [Console.readLine_of_unread_nil hend]
      · have hline := Console.lineCount_readLine hend
        omega
    exact Nat.le_trans (ih _ _) hread
  | write text next ih => exact ih _ (c.write text).2

open Conversation

namespace ValueSource

theorem on_prompting (name : String) :
    (prompting name : Conversation _).on = prompting name := by
  simp only [prompting, on_bind, on_write]
  congr 1
  funext outcome
  cases outcome with
  | error fault => rfl
  | ok _ =>
    simp only [on_bind, on_readLine]
    congr 1
    funext answer
    cases answer with
    | error fault => rfl
    | ok line => cases line <;> rfl

theorem on_collect {source : ValueSource Conversation} {live : ValueSource (StateT Console Id)}
    (h : ∀ name, (source name).on = live name) (b : Bindings) (names : List String) :
    (collect source b names).on = collect live b names := by
  induction names generalizing b with
  | nil => rfl
  | cons name names ih =>
    simp only [collect, on_bind, h]
    congr 1
    funext answer
    cases answer with
    | error e => rfl
    | ok value => exact ih _

end ValueSource

theorem Expression.on_evaluateFrom {source : ValueSource Conversation}
    {live : ValueSource (StateT Console Id)} (h : ∀ name, (source name).on = live name)
    (x : Expression) : (x.evaluateFrom source).on = x.evaluateFrom live := by
  simp only [evaluateFrom_eq, on_bind, ValueSource.on_collect h]
  congr 1
  funext answer
  cases answer <;> rfl

namespace Session

/-- A session has a value from the presets, does not know the variable, or asks for it. -/
theorem source_cases (s : Session) (name : String) :
    (∃ value, (s.source name : Conversation _) = done (.ok value)) ∨
      (s.source name : Conversation _) = done (.error (.unbound name)) ∨
      (s.source name : Conversation _) = ValueSource.prompting name := by
  simp only [source]
  split
  · simp only [ValueSource.withPresets]
    split
    · exact .inl ⟨_, rfl⟩
    · exact .inr (.inr rfl)
  · simp only [ValueSource.ofBindings]
    split
    · exact .inl ⟨_, rfl⟩
    · exact .inr (.inl rfl)

theorem on_source (s : Session) (name : String) :
    (s.source name : Conversation _).on = s.source name := by
  simp only [source]
  split
  · simp only [ValueSource.withPresets]
    split
    · rfl
    · exact ValueSource.on_prompting name
  · simp only [ValueSource.ofBindings]
    split <;> rfl

theorem on_writeError (s : Session) (text : String) (e : Error) :
    (s.writeError text e : Conversation _).on = s.writeError text e := by
  simp only [writeError, on_bind, on_note, on_write, on_pure]

theorem on_writeOutcome (s : Session) (text : String) (outcome : Except Error Float) :
    (s.writeOutcome text outcome : Conversation _).on = s.writeOutcome text outcome := by
  unfold writeOutcome
  split
  · simp only [on_bind, on_write, on_pure]
  · rfl
  · exact on_writeError s text _

theorem on_respond (s : Session) (text : String) :
    (s.respond text : Conversation _).on = s.respond text := by
  simp only [respond, Noted.read_eq, pure_bind]
  cases Expression.ofText text with
  | error e => exact on_writeError _ _ _
  | ok x =>
    have hrpn : (s.countEvaluated.writeRpn x : Conversation _).on =
        s.countEvaluated.writeRpn x := by
      unfold writeRpn
      split <;> rfl
    simp only [on_bind, hrpn]
    congr 1
    funext outcome
    cases outcome with
    | error fault => rfl
    | ok _ =>
      simp only [on_bind, Expression.on_evaluateFrom (on_source _), on_writeOutcome]

theorem on_batch (s : Session) (lines : List String) :
    (s.batch lines : Conversation _).on = s.batch lines := by
  induction lines generalizing s with
  | nil => rfl
  | cons line lines ih =>
    simp only [batch]
    split
    · exact ih s
    · simp only [on_bind, on_respond]
      congr 1
      funext answer
      obtain ⟨s, outcome⟩ := answer
      cases outcome with
      | error fault => rfl
      | ok _ => exact ih s

theorem on_turn (s : Session) : (s.turn : Conversation _).on = s.turn := by
  simp only [turn, on_bind, on_readLine]
  congr 1
  funext answer
  cases answer with
  | error fault => rfl
  | ok line =>
    cases line with
    | none => rfl
    | some line =>
      simp only
      split
      · rfl
      · split
        · rfl
        · simp only [on_bind, on_respond]
          congr 1
          funext answer
          obtain ⟨s, outcome⟩ := answer
          cases outcome <;> rfl

/-- What comes after the turn of the interactive loop that evaluated a line. -/
def Turn.after : Session × Except Fault (Option Float) → Turn
  | (s, .error fault) => .stop s (.error fault)
  | (s, .ok _) => .next s

/-- A turn reads a line. It returns the fault if there is one, and otherwise it is over or evaluates
the line. -/
theorem exists_turn_eq_read (s : Session) :
    ∃ next, (s.turn : Conversation Turn) = read next ∧
      (∀ fault, next (.error fault) = done (.stop s (.error fault))) ∧
      ∀ line, next (.ok line) = done (.next s) ∨ next (.ok line) = done (.stop s (.ok ())) ∨
        ∃ text, next (.ok line) = s.respond text >>= fun result => done (.after result) := by
  refine ⟨_, rfl, fun fault => rfl, ?_⟩
  intro line
  cases line with
  | none => exact .inr (.inl rfl)
  | some line =>
    simp only [Conversation.bind]
    split
    · exact .inl rfl
    · split
      · exact .inr (.inl rfl)
      · refine .inr (.inr ⟨Text.trim line, congrArg _ (funext ?_)⟩)
        rintro ⟨t, outcome⟩
        cases outcome <;> rfl

theorem on_turns (n : Nat) (s : Session) : (turns n s : Conversation _).on = turns n s := by
  induction n generalizing s with
  | zero => rfl
  | succ n ih =>
    simp only [turns, on_bind, on_turn]
    congr 1
    funext next
    cases next with
    | next s => exact ih s
    | stop s outcome => rfl

/-- The interactive loop for what a console has to read. -/
def loop (s : Session) (c : Console) : Conversation (Session × Except Fault Unit) :=
  turns (c.lineCount + 1) s

theorem on_loop (s : Session) (c : Console) :
    (s.loop c).on c = Id.run ((s.interact : StateT Console Id _).run c) := by
  rw [loop, on_turns]
  rfl

/-- A turn that does not stop the loop has taken a line. -/
theorem lineCount_of_turn {s t : Session} {c after : Console}
    (h : (s.turn : Conversation Turn).on c = (.next t, after)) :
    after.lineCount < c.lineCount := by
  rw [turn, on_bind_apply] at h
  by_cases hend : c.unread = []
  · have hnone : (Terminal.readLine : Conversation _).on c = (.ok none, c) :=
      Console.readLine_of_unread_nil hend
    rw [hnone] at h
    cases h
  · have hafter := congrArg (fun answer => answer.2.lineCount) h
    simp only at hafter
    have hread : ((Terminal.readLine : Conversation _).on c).2.lineCount + 1 = c.lineCount :=
      Console.lineCount_readLine hend
    rw [← hafter, ← hread]
    exact Nat.lt_succ_of_le (lineCount_on_le _ _)

end Session

end Calculator
