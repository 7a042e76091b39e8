import Calculator.Proofs.Batches

/-!
# The interactive loop and the batch

Without prompts the interactive loop is a batch over the lines before the first one that says
`exit`. The two cut a text into lines in different ways and skip different lines, but as long as no
line is a note it makes no difference.
-/

namespace Calculator

open Conversation

/-- The lines of a text, trimmed, are the same with and without their ends. -/
theorem Text.map_trim_lines (text : String) :
    (lines text).map trim = (Console.textLines text).map trim := by
  rw [lines, Console.textLines, List.map_map, List.map_map]
  apply List.map_congr_left
  intro line _
  simp only [Function.comp_apply, trim, String.toList_ofList, trimChars_withoutLineEnd]

namespace Session

/-- The line does not end the interactive loop. -/
def goesOn (line : String) : Bool :=
  !isExit (Text.trim line)

/-- What is computed for the expressions among lines depends on the trimmed lines only, if it does
so for one line. -/
theorem map_expressionLines_congr {α : Type} {f : String → α}
    (htrim : ∀ line, f (Text.trim line) = f line) {lines others : List String}
    (h : lines.map Text.trim = others.map Text.trim) :
    (expressionLines lines).map f = (expressionLines others).map f := by
  have htrimmed : ∀ lines : List String, (expressionLines lines).map f =
      ((lines.map Text.trim).filter fun text => !isSkipped text).map f := by
    intro lines
    simp only [expressionLines_eq, List.filter_map, List.map_map, Function.comp_def, htrim]
  rw [htrimmed, htrimmed, h]

/-- Cutting lines off at the first that ends the loop depends on the trimmed lines only. -/
theorem takeWhile_goesOn_congr {lines others : List String}
    (h : lines.map Text.trim = others.map Text.trim) :
    (lines.takeWhile goesOn).map Text.trim = (others.takeWhile goesOn).map Text.trim := by
  have htrimmed : ∀ lines : List String, (lines.takeWhile goesOn).map Text.trim =
      (lines.map Text.trim).takeWhile fun text => !isExit text := by
    intro lines
    have hgoes : goesOn = fun line => !isExit (Text.trim line) := by
      funext line
      rw [goesOn]
    simp only [List.takeWhile_map, Function.comp_def, hgoes]
  rw [htrimmed, htrimmed, h]

/-- A line that is no note is skipped in a batch if it is blank. -/
theorem isSkipped_of_not_note {text : String} (h : text.toList.head? ≠ some '#') :
    isSkipped text = text.isEmpty := by
  rw [isSkipped, Bool.eq_iff_iff, String.isEmpty_iff, ← String.toList_eq_nil_iff]
  cases hcs : text.toList with
  | nil => simp
  | cons c cs =>
    rw [hcs] at h
    simpa using h

/-- What a turn of the interactive loop does with a line that is no note, without prompts: it
passes a blank line over, stops at a line that ends the loop, and writes the block of any other. -/
theorem on_turn_unprompted {s : Session} {line : String} {lines : List String}
    (hprompt : s.options.prompt = false)
    (hlines : Console.AreLines ((line :: lines).map Console.encode))
    (hnote : (Text.trim line).toList.head? ≠ some '#') (written : List UInt8) :
    (s.turn : Conversation _).on (Console.ofTexts (line :: lines) written) =
      if isSkipped (Text.trim line) then (.next s, Console.ofTexts lines written)
      else if goesOn line then
        (.next (s.counting [s.options.outcome line]),
          Console.ofTexts lines (written ++ Console.encode (s.options.block line)))
      else (.stop s (.ok ()), Console.ofTexts lines written) := by
  have hread : (Terminal.readLine : Conversation _).on (Console.ofTexts (line :: lines) written) =
      (.ok (some line), Console.ofTexts lines written) :=
    (Console.readLine_ofTexts hlines written).1
  obtain ⟨hblock, houtcome⟩ := s.options.block_trim line
  rw [turn, on_bind_apply, hread, isSkipped_of_not_note hnote]
  simp only [goesOn, Bool.not_eq_true']
  split
  · rfl
  · cases hexit : isExit (Text.trim line) with
    | true => rfl
    | false =>
      simp only [Bool.false_eq_true, if_false, if_true]
      rw [on_bind_apply, Console.ofTexts, on_respond_unprompted hprompt, hblock, houtcome]
      rfl

/-- Without prompts more turns than lines come to the same as a batch over the lines before the
first that ends the loop. -/
theorem on_turns_unprompted {n : Nat} {s : Session} {lines : List String}
    (hprompt : s.options.prompt = false) (hlines : Console.AreLines (lines.map Console.encode))
    (hnotes : ∀ line ∈ lines, (Text.trim line).toList.head? ≠ some '#')
    (hcount : lines.length < n) (unread written : List UInt8) :
    let before := lines.takeWhile goesOn
    let batch := (s.batch before : Conversation _).on ⟨unread, written, none⟩
    (turns n s : Conversation _).on (Console.ofTexts lines written) =
      (batch.1, Console.ofTexts (lines.drop (before.length + 1)) batch.2.written) := by
  induction n generalizing s lines written with
  | zero => exact absurd hcount (Nat.not_lt_zero _)
  | succ n ih =>
    cases lines with
    | nil => rfl
    | cons line lines =>
      have hbehind : Console.AreLines (lines.map Console.encode) :=
        (Console.readLine_ofTexts hlines written).2
      have hfewer : lines.length < n := Nat.lt_of_succ_lt_succ hcount
      have hothers : ∀ other ∈ lines, (Text.trim other).toList.head? ≠ some '#' :=
        fun other hother => hnotes other (List.mem_cons_of_mem _ hother)
      have hturn := on_turn_unprompted hprompt hlines (hnotes line (List.mem_cons_self ..)) written
      rw [turns, on_bind_apply, hturn]
      cases hskip : isSkipped (Text.trim line) with
      | true =>
        have hgoes : goesOn line = true := by
          rw [isSkipped_of_not_note (hnotes line (List.mem_cons_self ..))] at hskip
          rw [goesOn, String.isEmpty_iff.mp hskip]
          decide
        rw [List.takeWhile_cons_of_pos hgoes]
        simp only [batch, hskip, if_true]
        exact ih hprompt hbehind hothers hfewer written
      | false =>
        cases hgoes : goesOn line with
        | true =>
          rw [List.takeWhile_cons_of_pos hgoes]
          simp only [on_batch_cons_unprompted hprompt hskip]
          exact ih (s := s.counting [s.options.outcome line]) hprompt hbehind hothers hfewer _
        | false =>
          rw [List.takeWhile_cons_of_neg (by simp [hgoes])]
          rfl

end Session

open Session in
/-- Without prompts the interactive loop over a text without notes does what a batch over its lines
does, up to the first line that says `exit`: it writes and counts the same and ends as well, and
leaves exactly what stands behind that line. -/
theorem interact_eq_batch {s : Session} (hprompt : s.options.prompt = false) {text : String}
    (hnotes : ∀ line ∈ Text.lines text, (Text.trim line).toList.head? ≠ some '#')
    (answers written : List UInt8) :
    let before := (Text.lines text).takeWhile fun line => !isExit (Text.trim line)
    let behind := ((Text.linesOf (· == '\n') text.toList).drop (before.length + 1)).flatten
    let batch := Id.run ((s.batch before : StateT Console Id _).run ⟨answers, written, none⟩)
    Id.run ((s.interact : StateT Console Id _).run ⟨Console.encode text, written, none⟩) =
      (batch.1, ⟨Console.encode (String.ofList behind), batch.2.written, none⟩) := by
  intro before behind batch
  -- the loop reads the lines with their ends
  have htrim := Text.map_trim_lines text
  have hbefore : before.map Text.trim = ((Console.textLines text).takeWhile goesOn).map Text.trim :=
    takeWhile_goesOn_congr htrim
  have hlength : before.length = ((Console.textLines text).takeWhile goesOn).length := by
    simpa using congrArg List.length hbefore
  have hbatch : batch = (s.batch ((Console.textLines text).takeWhile goesOn) :
      Conversation _).on ⟨answers, written, none⟩ := by
    rw [on_batch_unprompted hprompt, show batch = _ from run_batch_unprompted hprompt ..,
      map_expressionLines_congr (fun line => (s.options.block_trim line).1) hbefore,
      map_expressionLines_congr (fun line => (s.options.block_trim line).2) hbefore]
  have hended : ∀ line ∈ Console.textLines text, (Text.trim line).toList.head? ≠ some '#' := by
    intro line hline
    obtain ⟨other, hother, heq⟩ :=
      List.mem_map.mp (htrim ▸ List.mem_map_of_mem hline : Text.trim line ∈ _)
    exact heq ▸ hnotes other hother
  have hcount : (Console.textLines text).length <
      (⟨Console.encode text, written, none⟩ : Console).lineCount + 1 := by
    rw [Console.lineCount, Console.linesOf_encode, Console.textLines, List.length_map,
      List.length_map]
    exact Nat.lt_succ_self _
  have hloop := on_turns_unprompted hprompt (Console.areLines_textLines text) hended hcount
    answers written
  rw [Console.ofTexts_textLines] at hloop
  rw [← on_loop, loop, hloop, ← hbatch, ← hlength]
  simp only [Console.textLines, ← List.map_drop, Console.ofTexts_map_ofList]
  rfl

/-- Line ends of both kinds, an empty line, and a line that says `exit` with a line behind it. -/
theorem interact_eq_batch_up_to_exit :
    let s : Session := ⟨{ presets := .ofList [("x", 2.0)], prompt := false }, {}⟩
    let text := "x + 1\r\n\n1 / 0\n EXIT \r\n2 * x"
    let result := Id.run ((s.interact : StateT Console Id _).run ⟨Console.encode text, [], none⟩)
    s.options.prompt = false ∧
      (∀ line ∈ Text.lines text, (Text.trim line).toList.head? ≠ some '#') ∧
      result.1.1.summary = ⟨2, 1⟩ ∧
      result.2 = ⟨Console.encode "2 * x",
        Console.encode "=> 3\nError: division by zero\n", none⟩ := by
  intro s text result
  have hnotes : ∀ line ∈ Text.lines text, (Text.trim line).toList.head? ≠ some '#' := by
    decide +kernel
  have hresult := interact_eq_batch (s := s) rfl hnotes [] []
  have hsummary := congrArg (fun result => result.1.1.summary) hresult
  have hconsole := congrArg Prod.snd hresult
  refine ⟨rfl, hnotes, ?_, ?_⟩
  · exact hsummary.trans (by decide +kernel)
  · exact hconsole.trans (by decide +kernel)

end Calculator
