import Calculator.Proofs.Replies

/-!
# What is counted

A session counts the expressions that it evaluates and those that it reports as failed. The journal
tells for each expression that it was begun, that it came to a value, or that it was reported. Held
against the journal, the counters leave out one kind of expression: that for which a fault of the
terminal came before a value.
-/

namespace Calculator

open Reporting (fault?)

/-- How many expressions were begun, came to a value, and were reported as failed. -/
structure Tally where
  begun : Nat := 0
  valued : Nat := 0
  failed : Nat := 0
  deriving DecidableEq

namespace Tally

/-- What an event says about an expression, if it is one of the three. -/
def ofEvent : Event → Tally
  | .scanned _ _ => { begun := 1 }
  | .evaluated _ => { valued := 1 }
  | .lineFailed _ _ => { failed := 1 }
  | _ => {}

/-- What there is to say about an expression whose evaluation has come to `outcome`. Without a value
it is reported as failed, unless the reason is a fault of the terminal. -/
def ofOutcome (outcome : Except Error Float) : Tally where
  begun := 1
  valued := if outcome.isOk then 1 else 0
  failed := if outcome.isOk || (fault? outcome).isSome then 0 else 1

/-- An expression has a value or is reported, unless a fault came before. -/
theorem valued_add_failed (outcome : Except Error Float) :
    (ofOutcome outcome).valued + (ofOutcome outcome).failed =
      if (fault? outcome).isSome then 0 else 1 := by
  cases outcome with
  | ok value => rfl
  | error e => exact Nat.zero_add _

theorem failed_ofOutcome_error (e : Error) :
    (ofOutcome (.error e)).failed = if e.fault?.isSome then 0 else 1 := rfl

instance : Add Tally :=
  ⟨fun n k => ⟨n.begun + k.begun, n.valued + k.valued, n.failed + k.failed⟩⟩

/-- What events say about expressions. -/
def of (events : List Event) : Tally :=
  events.foldr (fun event n => ofEvent event + n) {}

variable (n k l : Tally)

theorem add_def : n + k = ⟨n.begun + k.begun, n.valued + k.valued, n.failed + k.failed⟩ := rfl

@[simp]
theorem empty_add : {} + n = n := by
  simp [add_def]

@[simp]
theorem add_empty : n + {} = n := by
  simp [add_def]

theorem add_assoc : n + k + l = n + (k + l) := by
  simp [add_def, Nat.add_assoc]

theorem of_append (events others : List Event) : of (events ++ others) = of events + of others := by
  induction events with
  | nil => exact (empty_add (of others)).symm
  | cons event events ih =>
    show ofEvent event + of (events ++ others) = ofEvent event + of events + of others
    rw [ih, add_assoc]

end Tally

instance : LawfulMonad Recorded :=
  .mk' Recorded (fun x => congrArg (Recorded.mk x.value) (List.append_nil x.events))
    (fun _ _ => rfl) fun x f g => congrArg (Recorded.mk _) (List.append_assoc ..)

section Tallying

variable {α β : Type}

/-- On every console the result of a computation, and what its events say, are as `P` says. -/
def Tallying (x : StateT Console Recorded α) (P : α → Tally → Prop) : Prop :=
  ∀ c, P (x.run c).value.1 (.of (x.run c).events)

theorem tallying_pure {a : α} {P : α → Tally → Prop} (h : P a {}) : Tallying (pure a) P :=
  fun _ => h

theorem Tallying.bind {x : StateT Console Recorded α} {f : α → StateT Console Recorded β}
    {P : α → Tally → Prop} {Q : β → Tally → Prop} (hx : Tallying x P)
    (hf : ∀ a n, P a n → Tallying (f a) fun b k => Q b (n + k)) : Tallying (x >>= f) Q := by
  intro c
  show Q _ (Tally.of ((x.run c).events ++ _))
  rw [Tally.of_append]
  exact hf _ _ (hx c) _

/-- Of a part that says nothing about expressions only the result matters. -/
theorem Tallying.bind_silent {x : StateT Console Recorded α} {f : α → StateT Console Recorded β}
    {Q : β → Tally → Prop} (hx : Tallying x fun _ n => n = {}) (hf : ∀ a, Tallying (f a) Q) :
    Tallying (x >>= f) Q := by
  refine hx.bind ?_
  rintro a _ rfl
  simpa only [Tally.empty_add] using hf a

theorem Tallying.mono {x : StateT Console Recorded α} {P Q : α → Tally → Prop}
    (hx : Tallying x P) (h : ∀ a n, P a n → Q a n) : Tallying x Q :=
  fun c => h _ _ (hx c)

theorem tallying_note (event : Event) :
    Tallying (Journal.note event) fun _ n => n = Tally.ofEvent event :=
  fun _ => Tally.add_empty _

theorem tallying_readLine : Tallying Terminal.readLine fun _ n => n = {} :=
  fun _ => rfl

theorem tallying_write (text : String) : Tallying (Terminal.write text) fun _ n => n = {} :=
  fun _ => rfl

/-- A loop says nothing about expressions if its steps do not. -/
theorem tallying_forIn {xs : List α} {b : β} {f : α → β → StateT Console Recorded (ForInStep β)}
    (h : ∀ x b, Tallying (f x b) fun _ n => n = {}) :
    Tallying (forIn xs b f) fun _ n => n = {} := by
  induction xs generalizing b with
  | nil => exact tallying_pure rfl
  | cons x xs ih =>
    rw [List.forIn_cons]
    refine (h x b).bind_silent ?_
    rintro (b | b)
    · exact tallying_pure rfl
    · exact ih

end Tallying

namespace Noted

/-- Cutting a text into tokens says that an expression is begun. -/
theorem tallying_scan (text : String) :
    Tallying (Noted.scan text) fun _ n => n = { begun := 1 } := by
  refine Tallying.bind_silent (tallying_forIn fun c _ => ?_) fun _ => ?_
  · exact (tallying_note _).bind_silent fun _ => tallying_pure rfl
  · refine (tallying_note _).bind ?_
    rintro _ _ rfl
    exact tallying_pure rfl

/-- Reading a text says that an expression is begun, whether its brackets match or not. -/
theorem tallying_read (text : String) :
    Tallying (Noted.read text) fun _ n => n = { begun := 1 } := by
  refine (tallying_scan text).bind ?_
  rintro tokens _ rfl
  cases Brackets.check tokens with
  | error e => exact tallying_pure rfl
  | ok _ =>
    have hconvert : Tallying (Noted.convert tokens) fun _ n => n = {} := by
      unfold Noted.convert
      split
      · exact tallying_pure rfl
      · exact (tallying_note _).bind_silent fun _ => tallying_pure rfl
    refine hconvert.bind ?_
    rintro reading _ rfl
    cases reading <;> exact tallying_pure rfl

/-- Evaluating a postfix order says whether there is a value. -/
theorem tallying_evaluate (b : Bindings) (rpn : List Token) :
    Tallying (Noted.evaluate b rpn) fun outcome n =>
      n = { valued := if outcome.isOk then 1 else 0 } := by
  unfold Noted.evaluate
  split
  · exact tallying_pure rfl
  · refine (tallying_note _).bind ?_
    rintro _ _ rfl
    exact tallying_pure rfl

end Noted

/-- Where the answers come from says nothing about expressions. -/
theorem ValueSource.tallying_prompting (name : String) :
    Tallying (prompting name) fun _ n => n = {} := by
  refine (tallying_write _).bind_silent ?_
  rintro (fault | _)
  · exact tallying_pure rfl
  · refine tallying_readLine.bind_silent ?_
    rintro (fault | _ | line) <;> exact tallying_pure rfl

theorem ValueSource.tallying_collect {source : ValueSource (StateT Console Recorded)}
    (h : ∀ name, Tallying (source name) fun _ n => n = {}) (b : Bindings) (names : List String) :
    Tallying (collect source b names) fun _ n => n = {} := by
  induction names generalizing b with
  | nil => exact tallying_pure rfl
  | cons name names ih =>
    refine (h name).bind_silent ?_
    rintro (e | value)
    · exact tallying_pure rfl
    · exact ih _

/-- The evaluation of an expression says whether there is a value. -/
theorem Expression.tallying_evaluateFrom {source : ValueSource (StateT Console Recorded)}
    (h : ∀ name, Tallying (source name) fun _ n => n = {}) (x : Expression) :
    Tallying (x.evaluateFrom source) fun outcome n =>
      n = { valued := if outcome.isOk then 1 else 0 } := by
  have hbind : Tallying (x.bindFrom source) fun _ n => n = {} := by
    refine (ValueSource.tallying_collect h _ _).bind_silent ?_
    rintro (e | b)
    · exact tallying_pure rfl
    · exact (tallying_note _).bind_silent fun _ => tallying_pure rfl
  refine hbind.bind_silent ?_
  rintro (e | b)
  · exact tallying_pure rfl
  · refine (Noted.tallying_evaluate b x.rpn).bind ?_
    rintro outcome _ rfl
    cases outcome <;> exact tallying_pure rfl

namespace Session

theorem tallying_source (s : Session) (name : String) :
    Tallying (s.source name) fun _ n => n = {} := by
  unfold source
  split
  · unfold ValueSource.withPresets
    split
    · exact (tallying_note _).bind_silent fun _ => tallying_pure rfl
    · exact ValueSource.tallying_prompting name
  · unfold ValueSource.ofBindings
    split <;> exact tallying_pure rfl

/-- The evaluation of a line says that an expression is begun, and whether there is a value. -/
theorem tallying_evaluation (s : Session) (text : String) :
    Tallying (s.evaluation text) fun outcome n =>
      n = { begun := 1, valued := if outcome.isOk then 1 else 0 } := by
  refine (Noted.tallying_read text).bind ?_
  rintro reading _ rfl
  cases reading with
  | error e => exact tallying_pure rfl
  | ok x =>
    have hrpn : Tallying (s.writeRpn x) fun _ n => n = {} := by
      unfold writeRpn
      split
      · exact tallying_write _
      · exact tallying_pure rfl
    refine hrpn.bind ?_
    rintro (fault | _) _ rfl
    · exact tallying_pure rfl
    · refine (Expression.tallying_evaluateFrom (tallying_source s) x).mono ?_
      rintro outcome _ rfl
      simp [Tally.add_def]

/-- Adds expressions to the counters: those that were begun and those that were reported. -/
def count (s : Session) (n : Tally) : Session :=
  { s with
    summary.evaluated := s.summary.evaluated + n.begun
    summary.failed := s.summary.failed + n.failed }

/-- How many expressions can have been cut off behind such an outcome. -/
def cuts {α : Type} : Except Fault α → Nat
  | .ok _ => 0
  | .error _ => 1

/-- The reply to an outcome reports and counts an error that is no fault of the terminal, and hands
on one that is. -/
theorem tallying_writeOutcome (s : Session) (text : String) (outcome : Except Error Float) :
    Tallying (s.writeOutcome text outcome) fun result n =>
      n = { failed := (Tally.ofOutcome outcome).failed } ∧ result.1 = s.count n ∧
        ((fault? outcome).isSome → cuts result.2 = 1) := by
  cases outcome with
  | ok value => exact (tallying_write _).bind_silent fun _ => tallying_pure ⟨rfl, rfl, nofun⟩
  | error e =>
    have hreason : fault? (Except.error e : Except Error Float) = e.fault? := rfl
    rw [Tally.failed_ofOutcome_error, hreason]
    cases hfault : e.fault? with
    | some fault =>
      obtain rfl := Error.fault?_eq_some_iff.mp hfault
      exact tallying_pure ⟨rfl, rfl, fun _ => rfl⟩
    | none =>
      rw [writeOutcome_error hfault]
      refine (tallying_note _).bind ?_
      rintro _ _ rfl
      exact (tallying_write _).bind_silent fun _ => tallying_pure ⟨rfl, rfl, nofun⟩

/-- A line counts as evaluated, and as failed if its evaluation has come to an error that is no
fault of the terminal. Such a fault is returned. -/
theorem respond_counts (s : Session) (text : String) (c : Console) :
    let evaluation := (s.countEvaluated.evaluation text : StateT Console Recorded _).run c
    let outcome := evaluation.value.1
    let run := (s.respond text : StateT Console Recorded _).run c
    Tally.of run.events = .ofOutcome outcome ∧ run.value.1.1 = s.count (.ofOutcome outcome) ∧
      ((fault? outcome).isSome → cuts run.value.1.2 = 1) := by
  intro evaluation outcome run
  have hrun : run = evaluation >>= fun result =>
      (s.countEvaluated.writeOutcome text result.1 : StateT Console Recorded _).run result.2 := by
    simp only [run, evaluation, respond_eq, StateT.run_bind]
  have hbegun : Tally.of evaluation.events =
      { begun := 1, valued := if outcome.isOk then 1 else 0 } :=
    tallying_evaluation s.countEvaluated text c
  obtain ⟨hreported, hcounted, hfault⟩ :=
    tallying_writeOutcome s.countEvaluated text outcome evaluation.value.2
  rw [hreported] at hcounted
  rw [hrun]
  refine ⟨?_, hcounted, hfault⟩
  show Tally.of (evaluation.events ++ _) = _
  rw [Tally.of_append, hbegun, hreported]
  simp [Tally.add_def, Tally.ofOutcome]

/-- The counters have gone on from `s` to `t` with the expressions that were begun and those that
were reported. Each of them had a value or was reported, apart from at most `cut` of them that were
cut off by a fault. -/
structure Accounts (s t : Session) (n : Tally) (cut : Nat) : Prop where
  counted : t = s.count n
  at_most : n.valued + n.failed ≤ n.begun
  all_but : n.begun ≤ n.valued + n.failed + cut

theorem Accounts.refl (s : Session) (cut : Nat) : s.Accounts s {} cut :=
  ⟨rfl, Nat.le_refl _, Nat.zero_le _⟩

theorem Accounts.trans {s t u : Session} {n k : Tally} {cut cut' : Nat} (h : s.Accounts t n cut)
    (h' : t.Accounts u k cut') : s.Accounts u (n + k) (cut + cut') where
  counted := by
    rw [h'.counted, h.counted]
    simp only [count, Tally.add_def, Nat.add_assoc]
  at_most := by
    have hfirst := h.at_most
    have hsecond := h'.at_most
    simp only [Tally.add_def]
    omega
  all_but := by
    have hfirst := h.all_but
    have hsecond := h'.all_but
    simp only [Tally.add_def]
    omega

/-- Counters that have accounted for expressions have not more failed than evaluated, if they had
not before. -/
theorem Accounts.failed_le {s t : Session} {n : Tally} {cut : Nat} (h : s.Accounts t n cut)
    (hle : s.summary.failed ≤ s.summary.evaluated) : t.summary.failed ≤ t.summary.evaluated := by
  have hmost := h.at_most
  rw [h.counted]
  simp only [count]
  omega

/-- A line accounts for one expression. -/
theorem tallying_respond (s : Session) (text : String) :
    Tallying (s.respond text) fun result n => s.Accounts result.1 n (cuts result.2) := by
  intro c
  obtain ⟨hevents, hcounted, hfault⟩ := respond_counts s text c
  rw [hevents]
  have hbegun : ∀ outcome, (Tally.ofOutcome outcome).begun = 1 := fun _ => rfl
  refine ⟨hcounted, ?_, ?_⟩
  · rw [Tally.valued_add_failed, hbegun]
    split <;> omega
  · rw [Tally.valued_add_failed, hbegun]
    split
    · rename_i hsome
      have hcut := hfault hsome
      omega
    · omega

/-- A batch accounts for its expressions, up to the first fault. -/
theorem tallying_batch (s : Session) (lines : List String) :
    Tallying (s.batch lines) fun result n => s.Accounts result.1 n (cuts result.2) := by
  induction lines generalizing s with
  | nil =>
    refine (tallying_note _).bind ?_
    rintro _ _ rfl
    exact tallying_pure (.refl s _)
  | cons line lines ih =>
    unfold batch
    simp only
    split
    · exact ih s
    · refine (tallying_respond s _).bind ?_
      rintro ⟨t, fault | value⟩ n hn
      · refine tallying_pure ?_
        rwa [Tally.add_empty]
      · -- only the last line can have been cut off
        refine (ih t).mono ?_
        intro result k hk
        have hboth := hn.trans hk
        rwa [cuts, Nat.zero_add] at hboth

/-- A turn of the interactive loop accounts for its expression. -/
theorem tallying_turn (s : Session) :
    Tallying s.turn fun
      | .next t, n => s.Accounts t n 0
      | .stop t outcome, n => s.Accounts t n (cuts outcome) := by
  refine tallying_readLine.bind_silent ?_
  rintro (fault | _ | line)
  · exact tallying_pure (.refl s _)
  · exact tallying_pure (.refl s _)
  · simp only
    split
    · exact tallying_pure (.refl s _)
    · split
      · refine (tallying_note _).bind ?_
        rintro _ _ rfl
        exact tallying_pure (.refl s _)
      · refine (tallying_respond s _).bind ?_
        rintro ⟨t, fault | value⟩ n hn <;>
          refine tallying_pure ?_ <;>
          rwa [Tally.add_empty]

/-- Turns of the interactive loop account for their expressions. -/
theorem tallying_turns (m : Nat) (s : Session) :
    Tallying (turns m s) fun result n => s.Accounts result.1 n (cuts result.2) := by
  induction m generalizing s with
  | zero => exact tallying_pure (.refl s _)
  | succ m ih =>
    refine (tallying_turn s).bind ?_
    rintro (t | ⟨t, outcome⟩) n hn
    · refine (ih t).mono ?_
      intro result k hk
      simpa using hn.trans hk
    · exact tallying_pure (by simpa using hn)

/-- The interactive loop accounts for its expressions. -/
theorem tallying_interact (s : Session) :
    Tallying s.interact fun result n => s.Accounts result.1 n (cuts result.2) :=
  fun c => tallying_turns (c.lineCount + 1) s c

/-- What a session is called to do. -/
inductive Call where
  | line (text : String)
  | interact
  | batch (lines : List String)

/-- Does what a session is called to do. -/
def perform {m : Type → Type} [Monad m] [Journal m] (s : Session) :
    Call → StateT Console m (Session × Except Fault Unit)
  | .line text => do
    let (t, outcome) ← s.respond text
    return (t, outcome.map fun _ => ())
  | .interact => s.interact
  | .batch lines => s.batch lines

/-- Calls one session again and again, each time with a console of its own, also after a fault. -/
def performAll {m : Type → Type} [Monad m] [Journal m] (s : Session) :
    List (Call × Console) → m (Session × List (Except Fault Unit))
  | [] => return (s, [])
  | (call, c) :: calls => do
    let ((t, outcome), _) ← (s.perform call).run c
    let (u, outcomes) ← t.performAll calls
    return (u, outcome :: outcomes)

/-- A call accounts for its expressions. -/
theorem tallying_perform (s : Session) (call : Call) :
    Tallying (s.perform call) fun result n => s.Accounts result.1 n (cuts result.2) := by
  cases call with
  | line text =>
    refine (tallying_respond s text).bind ?_
    rintro ⟨t, outcome⟩ n hn
    refine tallying_pure ?_
    rw [Tally.add_empty]
    cases outcome <;> exact hn
  | interact => exact tallying_interact s
  | batch lines => exact tallying_batch s lines

/-- Calls account for their expressions; one can be cut off in each call that returns a fault. -/
theorem accounts_performAll (s : Session) (calls : List (Call × Console)) :
    let run := (s.performAll calls : Recorded _)
    s.Accounts run.value.1 (.of run.events) (run.value.2.countP fun outcome => !outcome.isOk) := by
  induction calls generalizing s with
  | nil => exact .refl s _
  | cons next calls ih =>
    obtain ⟨call, c⟩ := next
    intro run
    let first := (s.perform call : StateT Console Recorded _).run c
    have hfirst : s.Accounts first.value.1.1 (.of first.events) (cuts first.value.1.2) :=
      tallying_perform s call c
    let others := (first.value.1.1.performAll calls : Recorded _)
    -- the other calls go on with the session that the first has left, also after a fault
    have hboth := hfirst.trans (ih first.value.1.1)
    rw [← Tally.of_append] at hboth
    have hevents : run.events = first.events ++ others.events :=
      congrArg (first.events ++ ·) (List.append_nil others.events)
    have hcuts : (run.value.2.countP fun outcome => !outcome.isOk) =
        cuts first.value.1.2 + others.value.2.countP fun outcome => !outcome.isOk := by
      show ((first.value.1.2 :: others.value.2).countP fun outcome => !outcome.isOk) = _
      rw [List.countP_cons, Nat.add_comm]
      cases first.value.1.2 <;> rfl
    rw [hevents, hcuts]
    exact hboth

end Session

open Session in
/-- A line is evaluated, and then the outcome is written. It counts as one evaluated expression, and
as failed as well if the outcome is no value, except where it is a fault of the terminal: then, and
only then, the counter of failures falls behind. So over any calls on a session, on any consoles,
each expression is counted as evaluated, and those without a value are counted as failed, apart from
at most one for each call that returned a fault. There are never more failed than evaluated. -/
theorem counters_account (s : Session) :
    (∀ text : String,
      (s.respond text : StateT Console Recorded _) =
        s.countEvaluated.evaluation text >>= s.countEvaluated.writeOutcome text ∧
      ∀ c : Console,
        let outcome :=
          ((s.countEvaluated.evaluation text : StateT Console Recorded _).run c).value.1
        let run := (s.respond text : StateT Console Recorded _).run c
        Tally.of run.events = .ofOutcome outcome ∧ run.value.1.1 = s.count (.ofOutcome outcome) ∧
          (run.value.1.1.summary.failed = s.summary.failed + (if outcome.isOk then 0 else 1) ↔
            fault? outcome = none)) ∧
    ∀ calls : List (Call × Console),
      let run := (s.performAll calls : Recorded _)
      s.Accounts run.value.1 (.of run.events) (run.value.2.countP fun outcome => !outcome.isOk) ∧
        (s.summary.failed ≤ s.summary.evaluated →
          run.value.1.summary.failed ≤ run.value.1.summary.evaluated) := by
  refine ⟨fun text => ⟨respond_eq s text, ?_⟩, ?_⟩
  · intro c outcome run
    obtain ⟨hevents, hcounted, -⟩ := respond_counts s text c
    refine ⟨hevents, hcounted, ?_⟩
    rw [hcounted]
    show s.summary.failed + (Tally.ofOutcome outcome).failed = _ ↔ _
    cases outcome with
    | ok value => exact iff_of_true rfl rfl
    | error e =>
      show s.summary.failed + (if e.fault?.isSome then 0 else 1) = s.summary.failed + 1 ↔
        e.fault? = none
      cases e.fault? <;> simp
  · intro calls run
    have haccounts := accounts_performAll s calls
    exact ⟨haccounts, haccounts.failed_le⟩

/-- The answer to a prompt is no text: the expression was begun and has no value, and is not counted
as failed. -/
theorem failed_misses_unreadable_answer :
    let run := (Session.performAll {} [(.line "x + 1", ⟨[0xFF, 10], [], none⟩)] : Recorded _)
    Tally.of run.events = { begun := 1 } ∧ run.value.1.summary = ⟨1, 0⟩ ∧
      run.value.1.summary.failed ≠ (Tally.of run.events).begun - (Tally.of run.events).valued := by
  decide +kernel

end Calculator
