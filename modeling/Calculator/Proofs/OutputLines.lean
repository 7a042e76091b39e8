import Calculator.Proofs.SessionTraces

/-!
# The lines of the output

The output of a session is framed by lines. Each expression takes up the line of its postfix order,
if that is shown and its brackets match, and directly behind it the line that its outcome ends, on
which the prompts stand as well. Whatever is quoted, no other line feed is written.
-/

namespace Calculator.Session

open Text (IsLine)

/-- The postfix order is shown if the options ask for it and the brackets match. -/
theorem Options.isSome_rpnLine? (o : Options) (text : String) :
    (o.rpnLine? text).isSome = (o.showRpn && Brackets.balanced (Token.scan text)) := by
  cases hx : Expression.ofText text with
  | error e => simp [rpnLine?, hx, (Expression.ofText_eq_error hx).1]
  | ok x =>
    have hbalanced := Postfix.balanced_of_ofTokens (Expression.ofText_eq_ok_iff.mp hx).2
    simp only [rpnLine?, hx, hbalanced]
    cases o.showRpn <;> rfl

/-- Entries have a line for each outcome, and one for each postfix order that is shown. -/
theorem length_flatMap_lines (o : Options) (entries : List Entry) :
    (entries.flatMap (Entry.lines o)).length = entries.length +
      if o.showRpn then
        entries.countP fun entry => Brackets.balanced (Token.scan entry.text)
      else 0 := by
  induction entries with
  | nil => simp
  | cons entry entries ih =>
    have hone : (o.rpnLine? entry.text).toList.length =
        if o.showRpn && Brackets.balanced (Token.scan entry.text) then 1 else 0 := by
      rw [← Options.isSome_rpnLine?]
      cases o.rpnLine? entry.text <;> rfl
    rw [List.flatMap_cons, List.length_append, ih, Entry.lines, List.length_append, hone,
      List.countP_cons]
    cases o.showRpn <;> cases Brackets.balanced (Token.scan entry.text) <;> simp <;> omega

/-- Whatever a session is called to do, on whatever input: if it does not come to a fault, its
output is, line for line, that of entries, one for each expression that was evaluated. In this
order the expressions are noted as begun and as settled, and counted. So as many line feeds are
written as expressions were evaluated, and one more for each whose brackets match, if the postfix
order is shown. -/
theorem output_by_lines (s : Session) (call : Call) (unread : List UInt8) :
    let run := (s.perform call : StateT Console Recorded _).run ⟨unread, [], none⟩
    run.value.1.2 = .ok () → ∃ (entries : List Entry) (closing : List Remark),
      run.value.1.1 = s.counting (entries.map Entry.outcome) ∧
      run.events.filterMap Remark.ofEvent? = entries.flatMap Entry.remarks ++ closing ∧
      (closing = [] ∨ closing = [.left]) ∧
      (∀ entry ∈ entries,
        entry.asked.Sublist (Token.variableNames (Token.scan entry.text))) ∧
      Text.linesOf Console.isLineFeed run.value.2.written =
        (entries.flatMap (Entry.lines s.options)).map Console.encode ∧
      run.value.2.written.countP Console.isLineFeed = entries.length +
        if s.options.showRpn then
          entries.countP fun entry => Brackets.balanced (Token.scan entry.text)
        else 0 := by
  intro run hok
  obtain ⟨result, t, left, hperform, hleaves⟩ := exists_run_perform s call unread
  have hrun : run = ⟨(result, ⟨left, t.output, none⟩), t.notes⟩ := hperform []
  rw [hrun] at hok ⊢
  obtain ⟨entries, closing, hlogged, hclosing⟩ := hleaves hok
  have houtput : t.output = (entries.flatMap (Entry.lines s.options)).flatMap Console.encode :=
    hlogged.output
  refine ⟨entries, closing, hlogged.session, hlogged.notes, hclosing, hlogged.sublist, ?_, ?_⟩
  · rw [houtput, Console.linesOf_flatMap_encode hlogged.isLine]
  · rw [houtput, Console.count_flatMap_encode hlogged.isLine, length_flatMap_lines]

/-- A line feed within an expression, brackets that do not match, and a refused answer. -/
theorem output_of_three_expressions :
    let s : Session := ⟨{ showRpn := true }, {}⟩
    let run := (s.perform (.batch ["x\n/ 0", "(2", "y + 1"]) : StateT Console Recorded _).run
      ⟨Console.encode "3\n oops \n", [], none⟩
    run.value.1.2 = .ok () ∧
      run.value.2.written = Console.encode ("postfix: x 0 /\n" ++
        "Enter the value of 'x': Error: division by zero\n" ++
        "Error: unbalanced brackets\n" ++
        "postfix: y 1 +\n" ++
        "Enter the value of 'y': Error: invalid value 'oops' for variable 'y'\n") ∧
      ∃ entries : List Entry,
        Text.linesOf Console.isLineFeed run.value.2.written =
          (entries.flatMap (Entry.lines s.options)).map Console.encode ∧
        run.value.2.written.countP Console.isLineFeed = entries.length +
          entries.countP fun entry => Brackets.balanced (Token.scan entry.text) := by
  intro s run
  have hok : run.value.1.2 = .ok () := by decide +kernel
  obtain ⟨entries, -, -, -, -, -, hlines, hcount⟩ :=
    output_by_lines s (.batch ["x\n/ 0", "(2", "y + 1"]) (Console.encode "3\n oops \n") hok
  exact ⟨hok, by decide +kernel, entries, hlines, hcount⟩

end Calculator.Session
