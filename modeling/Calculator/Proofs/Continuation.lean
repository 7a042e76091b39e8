import Calculator.Proofs.SessionTraces

/-!
# Going on behind a line

Between two turns the interactive loop keeps nothing but the session. So if it comes to the end of
an input between two expressions, it can be called again with more input, and does there what it
would have done if the inputs had been one. The end of the input can be marked by an exit line as
well.
-/

namespace Calculator

open Console (WholeLines)

/-- The interactive loop was left by an exit line. -/
def Event.isExit : Event → Bool
  | exitRequested => true
  | _ => false

/-- An expression was reported as failed because the input ended before an answer. -/
def Event.isStarved : Event → Bool
  | lineFailed _ e => e.isStarved
  | _ => false

/-- The end of the input has no more lines than the input. -/
theorem Text.length_linesOf_le {α : Type} {isEnd : α → Bool} {xs ys : List α} (h : xs <:+ ys) :
    (linesOf isEnd xs).length ≤ (linesOf isEnd ys).length := by
  obtain ⟨front, rfl⟩ := h
  induction front with
  | nil => exact Nat.le_refl _
  | cons x front ih =>
    refine Nat.le_trans ih ?_
    rw [List.cons_append, linesOf_cons]
    cases hx : isEnd x <;> cases linesOf isEnd (front ++ xs) <;> simp [consLine, hx]

/-- The number of lines of an input. -/
def Console.countLines (input : List UInt8) : Nat :=
  (Text.linesOf isLineFeed input).length

namespace Session

/-- Before the end of the input, a turn heeds the first line, and fewer lines are left. -/
theorem exists_passage_turn (s : Session) {unread : List UInt8} (hne : unread ≠ []) :
    ∃ turn t left, Passage s.turn unread turn t left ∧ s.Heeded turn t.remarks ∧
      Console.countLines left < Console.countLines unread := by
  have hline : Console.answerOf (Text.firstLine Console.isLineFeed unread).1 ≠ .ok none := by
    unfold Console.answerOf
    cases Console.decode? _ <;> simp
  obtain ⟨turn, t, left, hpassage, hheeded⟩ :=
    tracing_heed s hline (Text.firstLine Console.isLineFeed unread).2
  have hturn := (passage_readLine hne).bind hpassage
  rw [Trace.empty_append] at hturn
  refine ⟨turn, t, left, hturn, hheeded, ?_⟩
  rw [Console.countLines, Console.countLines, Text.linesOf_eq_cons Console.isLineFeed hne,
    List.length_cons]
  exact Nat.lt_succ_of_le (Text.length_linesOf_le hpassage.suffix)

theorem run_turn_nil (s : Session) (written : List UInt8) :
    (s.turn : StateT Console Recorded _).run ⟨[], written, none⟩ =
      ⟨(.stop s (.ok ()), ⟨[], written, none⟩), []⟩ := rfl

/-- All numbers of turns above the number of lines come to the same. -/
theorem run_turns_congr {n m : Nat} (s : Session) (unread written : List UInt8)
    (hn : Console.countLines unread < n) (hm : Console.countLines unread < m) :
    (turns n s : StateT Console Recorded _).run ⟨unread, written, none⟩ =
      (turns m s : StateT Console Recorded _).run ⟨unread, written, none⟩ := by
  induction n generalizing m s unread written with
  | zero => exact absurd hn (Nat.not_lt_zero _)
  | succ n ih =>
    obtain ⟨m, rfl⟩ : ∃ k, m = k + 1 := ⟨m - 1, by omega⟩
    rw [turns, turns, StateT.run_bind, StateT.run_bind]
    by_cases hne : unread = []
    · subst hne
      rw [run_turn_nil]
      rfl
    · obtain ⟨turn, t, left, hpassage, -, hleft⟩ := exists_passage_turn s hne
      rw [hpassage.run, Recorded.bind_mk, Recorded.bind_mk]
      cases turn with
      | stop u outcome => rfl
      | next u =>
        have hsame := ih (m := m) u left (written ++ t.output) (by omega) (by omega)
        simp only [hsame]

/-- The loop is any number of turns above the number of lines. -/
theorem run_interact_eq {n : Nat} (s : Session) {unread : List UInt8} (written : List UInt8)
    (h : Console.countLines unread < n) :
    (s.interact : StateT Console Recorded _).run ⟨unread, written, none⟩ =
      (turns n s : StateT Console Recorded _).run ⟨unread, written, none⟩ :=
  run_turns_congr s unread written (Nat.lt_succ_self _) h

/-- Where the first turn goes on, the loop does what it does behind that turn. -/
theorem run_interact_of_next {s u : Session} {unread left written output : List UInt8}
    {events : List Event}
    (hturn : (s.turn : StateT Console Recorded _).run ⟨unread, written, none⟩ =
      ⟨(.next u, ⟨left, output, none⟩), events⟩) :
    let later := (u.interact : StateT Console Recorded _).run ⟨left, output, none⟩
    (s.interact : StateT Console Recorded _).run ⟨unread, written, none⟩ =
      ⟨later.value, events ++ later.events⟩ := by
  intro later
  have hne : unread ≠ [] := by
    rintro rfl
    cases (run_turn_nil s written).symm.trans hturn
  obtain ⟨turn, t, rest, hpassage, -, hfewer⟩ := exists_passage_turn s hne
  have hsame := (hpassage.run written).symm.trans hturn
  cases hsame
  have hlater := run_interact_eq u (written ++ t.output) hfewer
  rw [run_interact_eq s written (Nat.lt_succ_self _), turns, StateT.run_bind, hturn,
    Recorded.bind_mk]
  simp only [later, hlater]

/-- Where the first turn stops, the loop stops. -/
theorem run_interact_of_stop {s u : Session} {unread left written output : List UInt8}
    {outcome : Except Fault Unit} {events : List Event}
    (hturn : (s.turn : StateT Console Recorded _).run ⟨unread, written, none⟩ =
      ⟨(.stop u outcome, ⟨left, output, none⟩), events⟩) :
    (s.interact : StateT Console Recorded _).run ⟨unread, written, none⟩ =
      ⟨((u, outcome), ⟨left, output, none⟩), events⟩ := by
  rw [run_interact_eq s written (Nat.lt_succ_self _), turns, StateT.run_bind, hturn,
    Recorded.bind_mk]
  exact congrArg (Recorded.mk _) (List.append_nil events)

/-- The loop goes on from `s` to `u` over the lines of an input, whatever stands behind them. -/
inductive Leads : Session → List UInt8 → Session → Trace Event → Prop where
  | nil (s : Session) : Leads s [] s {}
  | turn {s u v : Session} {unread left : List UInt8} {t t' : Trace Event}
    (first : ∀ behind written,
      (s.turn : StateT Console Recorded _).run ⟨unread ++ behind, written, none⟩ =
        ⟨(.next u, ⟨left ++ behind, written ++ t.output, none⟩), t.notes⟩)
    (others : Leads u left v t') : Leads s unread v (t ++ t')

/-- Behind the lines over which it goes on, the loop does what it does on its own. -/
theorem Leads.run_interact {s u : Session} {unread : List UInt8} {t : Trace Event}
    (h : Leads s unread u t) (behind written : List UInt8) :
    let later := (u.interact : StateT Console Recorded _).run ⟨behind, written ++ t.output, none⟩
    (s.interact : StateT Console Recorded _).run ⟨unread ++ behind, written, none⟩ =
      ⟨later.value, t.notes ++ later.events⟩ := by
  induction h generalizing written with
  | nil s =>
    intro later
    simp only [later, List.append_nil]
    rfl
  | turn first others ih =>
    intro later
    have hloop := run_interact_of_next (first behind written)
    rw [ih] at hloop
    simp only [later, hloop, Trace.append_def, List.append_assoc]

/-- An entry for which the input ended too early can be told from what was noted. -/
theorem Logged.exists_isStarved {s u : Session} {entries : List Entry} {closing : List Remark}
    {t : Trace Event} (h : s.Logged u entries closing t.remarks) {entry : Entry}
    (hmem : entry ∈ entries) (hstarved : entry.isStarved = true) :
    ∃ event ∈ t.notes, event.isStarved = true := by
  have hsettled : .settled entry.outcome ∈ t.remarks.notes := by
    rw [h.notes]
    exact List.mem_append_left _ (List.mem_flatMap.mpr ⟨entry, hmem, by simp [Entry.remarks]⟩)
  obtain ⟨event, hevent, heq⟩ := List.mem_filterMap.mp hsettled
  refine ⟨event, hevent, ?_⟩
  simp only [Entry.isStarved] at hstarved
  split at hstarved
  · rename_i e houtcome
    rw [houtcome] at heq
    cases event <;> cases heq
    exact hstarved
  · cases hstarved

/-- If the end of whole lines is met between two expressions, and before an exit line or a fault,
then the loop goes on over these lines. -/
theorem exists_leads (s : Session) {unread : List UInt8} (written : List UInt8)
    (hwhole : WholeLines unread)
    (hok : ((s.interact : StateT Console Recorded _).run
      ⟨unread, written, none⟩).value.1.2 = .ok ())
    (hgoes : ∀ event ∈ ((s.interact : StateT Console Recorded _).run
      ⟨unread, written, none⟩).events, event.isExit = false ∧ event.isStarved = false) :
    ∃ u t, Leads s unread u t := by
  -- by the lines that are left, of which every turn takes at least one
  induction hlines : Console.countLines unread using Nat.strongRecOn
    generalizing s unread written with
  | ind n ih =>
    by_cases hne : unread = []
    · subst hne
      exact ⟨s, {}, .nil s⟩
    obtain ⟨turn, t, left, hpassage, hheeded, hfewer⟩ := exists_passage_turn s hne
    generalize hremarks : t.remarks = remarks at hheeded
    -- the three ways to heed a line are those of a turn; only one of them is open here
    cases hheeded with
    | @next u entries _ hlogged hstarved =>
      have hloop := run_interact_of_next (hpassage.run written)
      rw [hloop] at hok hgoes
      rw [← hremarks] at hlogged
      have hended : t.ended = false := by
        refine Bool.eq_false_iff.mpr fun hmet => ?_
        obtain ⟨entry, hmem, hentry⟩ := hstarved (hremarks ▸ hmet)
        obtain ⟨event, hevent, hmissed⟩ := hlogged.exists_isStarved hmem hentry
        rw [(hgoes event (List.mem_append_left _ hevent)).2] at hmissed
        cases hmissed
      obtain ⟨v, t', hleads⟩ := ih _ (hlines ▸ hfewer) u (written ++ t.output)
        (hwhole.suffix hpassage.suffix) hok
        (fun event hevent => hgoes event (List.mem_append_right _ hevent)) rfl
      exact ⟨v, t ++ t', .turn (hpassage.onward hwhole hended) hleads⟩
    | exit =>
      have hloop := run_interact_of_stop (hpassage.run written)
      rw [hloop] at hgoes
      have hleft : .left ∈ t.remarks.notes := by
        rw [hremarks]
        exact List.mem_singleton_self _
      obtain ⟨event, hevent, heq⟩ := List.mem_filterMap.mp hleft
      have hexit := (hgoes event hevent).1
      cases event <;> cases heq
      cases hexit
    | fault =>
      rw [run_interact_of_stop (hpassage.run written)] at hok
      cases hok

/-- An exit line stops the loop, and what stands behind it is left to read. -/
theorem run_interact_exit (s : Session) (behind written : List UInt8) :
    (s.interact : StateT Console Recorded _).run
        ⟨Console.encode "exit\n" ++ behind, written, none⟩ =
      ⟨((s, .ok ()), ⟨behind, written, none⟩), [.exitRequested]⟩ := by
  have hbytes : Console.encode "exit\n" = Console.encode "exit" ++ [10] := by
    rw [← Console.encode_lineFeed, ← Console.encode_append]
    rfl
  have hfirst : Text.firstLine Console.isLineFeed (Console.encode "exit\n" ++ behind) =
      (Console.encode "exit\n", behind) := by
    rw [hbytes, List.append_assoc]
    exact Text.firstLine_body_end (Console.isLineFeed_of_unbroken (by decide)) rfl behind
  have hne : Console.encode "exit\n" ++ behind ≠ [] := by
    simp [hbytes]
  have hread : (Terminal.readLine : StateT Console Recorded _).run
      ⟨Console.encode "exit\n" ++ behind, written, none⟩ =
        ⟨(.ok (some "exit\n"), ⟨behind, written, none⟩), []⟩ := by
    have hline := (passage_readLine hne).run written
    rw [hfirst, Console.answerOf, Console.decode?_encode, List.append_nil] at hline
    exact hline
  have hheed : (s.heed (.ok (some "exit\n")) : StateT Console Recorded _) =
      Journal.note .exitRequested >>= fun _ => pure (.stop s (.ok ())) := by
    have hblank : (Text.trim "exit\n").isEmpty = false := by decide
    have hexit : isExit (Text.trim "exit\n") = true := by decide
    simp only [heed, hblank, hexit, Bool.false_eq_true, if_false, if_true]
  refine run_interact_of_stop ?_
  rw [turn_eq, StateT.run_bind, hread, Recorded.bind_mk, hheed]
  rfl

/-- The interactive loop with an input and room for everything. -/
def interactOn (s : Session) (input : List UInt8) :
    Recorded ((Session × Except Fault Unit) × Console) :=
  (s.interact : StateT Console Recorded _).run ⟨input, [], none⟩

/-- What was written before does not change what the loop does. -/
theorem run_interact_written (s : Session) (input written : List UInt8) :
    (s.interact : StateT Console Recorded _).run ⟨input, written, none⟩ =
      ⟨((s.interactOn input).value.1,
        ⟨(s.interactOn input).value.2.unread, written ++ (s.interactOn input).value.2.written,
          none⟩), (s.interactOn input).events⟩ := by
  obtain ⟨result, t, left, hrun, -⟩ := exists_run_perform s .interact input
  have hon : s.interactOn input = _ := hrun []
  rw [hon]
  exact hrun written

/-- Where the interactive loop comes to the end of whole lines without a fault, an exit line or an
expression that lacks an answer, its input can be cut. With more input behind these lines, the loop
does what it does on the lines alone and then what a second call of the session does on the rest:
result and unread input are those of the second call, outputs and notes are joined. An exit line at
the cut stops the loop with the output of the lines alone and leaves the rest unread, and another
call goes on there as if that line had not been. -/
theorem interact_continues (s : Session) {first : List UInt8} (hwhole : WholeLines first)
    (hok : (s.interactOn first).value.1.2 = .ok ())
    (hgoes : ∀ event ∈ (s.interactOn first).events,
      event.isExit = false ∧ event.isStarved = false) (second : List UInt8) :
    let alone := s.interactOn first
    let later := alone.value.1.1.interactOn second
    let whole := s.interactOn (first ++ second)
    let stopped := s.interactOn (first ++ Console.encode "exit\n" ++ second)
    whole = ⟨(later.value.1, ⟨later.value.2.unread,
        alone.value.2.written ++ later.value.2.written, none⟩), alone.events ++ later.events⟩ ∧
      stopped = ⟨((alone.value.1.1, .ok ()), ⟨second, alone.value.2.written, none⟩),
        alone.events ++ [.exitRequested]⟩ ∧
      ((stopped.value.1.1.interact : StateT Console Recorded _).run stopped.value.2).value =
        whole.value := by
  obtain ⟨u, t, hleads⟩ := exists_leads s [] hwhole hok hgoes
  intro alone later whole stopped
  have halone : alone = ⟨((u, .ok ()), ⟨[], t.output, none⟩), t.notes⟩ := by
    have hrun := hleads.run_interact [] []
    rw [List.append_nil, List.nil_append] at hrun
    exact hrun.trans (congrArg (Recorded.mk _) (List.append_nil _))
  have hlater : later = u.interactOn second :=
    congrArg (fun run => run.value.1.1.interactOn second) halone
  have hbehind := run_interact_written u second t.output
  have hcut : whole = ⟨(later.value.1, ⟨later.value.2.unread,
      t.output ++ later.value.2.written, none⟩), t.notes ++ later.events⟩ := by
    have hrun := hleads.run_interact second []
    rw [List.nil_append, hbehind, ← hlater] at hrun
    exact hrun
  have hexit : stopped =
      ⟨((u, .ok ()), ⟨second, t.output, none⟩), t.notes ++ [.exitRequested]⟩ := by
    have hrun := hleads.run_interact (Console.encode "exit\n" ++ second) []
    rw [← List.append_assoc, List.nil_append, run_interact_exit] at hrun
    exact hrun
  rw [halone]
  refine ⟨hcut, hexit, ?_⟩
  have hvalue := congrArg Recorded.value hbehind
  rw [hexit, hcut, hlater]
  exact hvalue

/-- The input can be cut behind an answer and an empty line. The second call has no line left for an
answer, and an exit line at the cut keeps its line unread. -/
theorem interact_continues_behind_answer :
    let s : Session := ⟨{ presets := .ofList [("y", 2.0)] }, {}⟩
    let first := Console.encode "x + y\n 1\n\n"
    let second := Console.encode "z"
    let alone := s.interactOn first
    let stopped := s.interactOn (first ++ Console.encode "exit\n" ++ second)
    WholeLines first ∧ alone.value.1.2 = .ok () ∧
      (∀ event ∈ alone.events, event.isExit = false ∧ event.isStarved = false) ∧
      alone.value.2 = ⟨[], Console.encode "Enter the value of 'x': => 3\n", none⟩ ∧
      stopped.value.2 = ⟨second, Console.encode "Enter the value of 'x': => 3\n", none⟩ ∧
      ((stopped.value.1.1.interact : StateT Console Recorded _).run stopped.value.2).value.2 =
        ⟨[], Console.encode ("Enter the value of 'x': => 3\n" ++ "Enter the value of 'z': " ++
          "Error: input ended before a value for 'z' was given\n"), none⟩ := by
  intro s first second alone stopped
  have hwhole : WholeLines first := by decide +kernel
  have hok : alone.value.1.2 = .ok () := by decide +kernel
  have hgoes : ∀ event ∈ alone.events, event.isExit = false ∧ event.isStarved = false := by
    decide +kernel
  have halone : alone.value.2 = ⟨[], Console.encode "Enter the value of 'x': => 3\n", none⟩ := by
    decide +kernel
  obtain ⟨-, hstopped, hbehind⟩ := interact_continues s hwhole hok hgoes second
  refine ⟨hwhole, hok, hgoes, halone, ?_, ?_⟩
  · exact (congrArg (fun run => run.value.2) hstopped).trans (by rw [halone])
  · exact (congrArg Prod.snd hbehind).trans (by decide +kernel)

end Session

end Calculator
