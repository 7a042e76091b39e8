import Calculator.Proofs.Replies
import Calculator.Proofs.TextInput

/-!
# Batches without prompts

Without prompts a batch is its lines one by one: each expression adds a block to the output that
depends on the line and the options alone, and counts by what the calculation of the line with the
presets comes to. Nothing is read, and nothing that a line leaves behind is seen by a later one.
-/

namespace Calculator

open Conversation
open Reporting (fault?)

section Presets

variable {m : Type → Type} [Monad m] [LawfulMonad m]

/-- A table answers without asking anybody else. -/
theorem ValueSource.collect_ofBindings (b acc : Bindings) (names : List String) :
    (collect (ofBindings b) acc names : m _) =
      pure (Id.run (collect (ofBindings b) acc names)) := by
  induction names generalizing acc with
  | nil => rfl
  | cons name names ih =>
    simp only [collect, ofBindings]
    cases b.get? name with
    | none => simp
    | some value => simpa using ih (acc.insert name value)

variable [Journal m] [QuietJournal m]

/-- With a table as the source, an evaluation asks nobody else. -/
theorem Expression.evaluateFrom_ofBindings (x : Expression) (b : Bindings) :
    (x.evaluateFrom (.ofBindings b) : m _) = pure (Id.run (x.evaluateFrom (.ofBindings b))) := by
  simp only [evaluateFrom_eq]
  rw [ValueSource.collect_ofBindings]
  cases hanswer : Id.run (ValueSource.collect (.ofBindings b) .empty x.variableNames) <;>
    simp [hanswer]

end Presets

namespace Session

/-- What a line comes to with the presets alone. -/
def Options.outcome (o : Options) (line : String) : Except Error Float :=
  Id.run (calculate line (.ofBindings o.presets))

/-- What is written for a line: its postfix order, if that is shown, and its outcome. -/
def Options.block (o : Options) (line : String) : String :=
  (o.rpnLine? line).getD "" ++ reply (o.outcome line)

/-- The lines of a batch that are expressions: those whose first character that is not blank is
there and is no `#`. -/
def expressionLines (lines : List String) : List String :=
  lines.filter fun line => (line.toList.find? fun c => !Text.isBlank c).any fun c => c != '#'

/-- A trimmed line is skipped if the first character that is not blank is missing or a `#`. -/
theorem isSkipped_trim (line : String) :
    isSkipped (Text.trim line) =
      !(line.toList.find? fun c => !Text.isBlank c).any fun c => c != '#' := by
  rw [isSkipped, Text.head?_trim]
  cases line.toList.find? fun c => !Text.isBlank c with
  | none => rfl
  | some c => rw [Option.all_some, Option.any_some, bne, Bool.not_not]

/-- The expressions are the lines that are not skipped when they are trimmed. -/
theorem expressionLines_eq (lines : List String) :
    expressionLines lines = lines.filter fun line => !isSkipped (Text.trim line) := by
  simp only [expressionLines, isSkipped_trim, Bool.not_not]

/-- A line that is skipped is no expression. -/
theorem expressionLines_of_skipped {line : String} (h : isSkipped (Text.trim line) = true)
    (lines : List String) : expressionLines (line :: lines) = expressionLines lines := by
  simp [expressionLines_eq, h]

/-- Any other line is one. -/
theorem expressionLines_of_not_skipped {line : String} (h : isSkipped (Text.trim line) = false)
    (lines : List String) : expressionLines (line :: lines) = line :: expressionLines lines := by
  simp [expressionLines_eq, h]

/-- Without prompts the evaluation of a line reads nothing and depends on the presets alone. -/
theorem course_evaluation_unprompted {s : Session} (hprompt : s.options.prompt = false)
    (text : String) (unread : List UInt8) :
    fault? (s.options.outcome text) = none ∧
      (s.evaluation text : Conversation _).Course unread (s.options.announced text)
        (s.options.outcome text) unread := by
  have hsource : (s.source : ValueSource Conversation) = .ofBindings s.options.presets := by
    simp [source, hprompt]
  cases hx : Expression.ofText text with
  | error e =>
    have houtcome : s.options.outcome text = .error (.brackets e) := by
      rw [Options.outcome, calculate_eq, hx]
      rfl
    rw [houtcome]
    exact ⟨rfl, course_evaluation_error hx s unread⟩
  | ok x =>
    have hevaluate : (x.evaluateFrom s.source : Conversation _) =
        pure (s.options.outcome text) := by
      rw [hsource, Expression.evaluateFrom_ofBindings, Options.outcome, calculate_eq, hx]
    have hheeds := Expression.heedsFaults_evaluateFrom (heedsFaults_source s) x
    rw [hevaluate] at hheeds
    refine ⟨hheeds, ?_⟩
    have hcourse := course_pure (s.options.outcome text) unread
    rw [← hevaluate] at hcourse
    simpa using course_evaluation_ok hx hcourse

/-- The block of a line is what is said before its outcome, and its outcome. -/
theorem Options.encode_block (o : Options) (line : String) :
    Console.encode (o.block line) =
      (o.announced line ++ [Exchange.said (reply (o.outcome line)) (.ok ())]).flatMap
        Exchange.bytes := by
  rw [block, Console.encode_append, announced]
  cases o.rpnLine? line <;> simp [Exchange.bytes, Console.encode_eq]

/-- Without prompts a line adds its block to the output and is counted. -/
theorem on_respond_unprompted {s : Session} (hprompt : s.options.prompt = false)
    (text : String) (unread written : List UInt8) :
    (s.respond text : Conversation _).on ⟨unread, written, none⟩ =
      ((s.counting [s.options.outcome text], .ok (s.options.outcome text).toOption),
        ⟨unread, written ++ Console.encode (s.options.block text), none⟩) := by
  obtain ⟨hfault, hcourse⟩ :=
    course_evaluation_unprompted (s := s.countEvaluated) hprompt text unread
  rw [Options.encode_block]
  exact (course_respond hfault hcourse).on written

/-- The block and the outcome of a line are those of the trimmed line. -/
theorem Options.block_trim (o : Options) (line : String) :
    o.block (Text.trim line) = o.block line ∧ o.outcome (Text.trim line) = o.outcome line := by
  have hread : Expression.ofText (Text.trim line) = Expression.ofText line :=
    Expression.ofText_trim line
  have houtcome : o.outcome (Text.trim line) = o.outcome line := by
    rw [outcome, outcome, calculate_eq, calculate_eq, hread]
  refine ⟨?_, houtcome⟩
  rw [block, block, houtcome, rpnLine?, rpnLine?, hread]

/-- Without prompts a batch goes on behind an expression with its block written and its outcome
counted. -/
theorem on_batch_cons_unprompted {s : Session} (hprompt : s.options.prompt = false) {line : String}
    (hskip : isSkipped (Text.trim line) = false) (lines : List String)
    (unread written : List UInt8) :
    (s.batch (line :: lines) : Conversation _).on ⟨unread, written, none⟩ =
      ((s.counting [s.options.outcome line]).batch lines : Conversation _).on
        ⟨unread, written ++ Console.encode (s.options.block line), none⟩ := by
  obtain ⟨hblock, houtcome⟩ := s.options.block_trim line
  simp only [batch, hskip]
  rw [if_neg Bool.false_ne_true, on_bind_apply, on_respond_unprompted hprompt, hblock, houtcome]

/-- Without prompts a batch reads nothing, writes the blocks of its expressions in order, and
counts their outcomes. -/
theorem on_batch_unprompted {s : Session} (hprompt : s.options.prompt = false)
    (lines : List String) (unread written : List UInt8) :
    (s.batch lines : Conversation _).on ⟨unread, written, none⟩ =
      ((s.counting ((expressionLines lines).map s.options.outcome), .ok ()),
        ⟨unread, written ++ ((expressionLines lines).map s.options.block).flatMap Console.encode,
          none⟩) := by
  induction lines generalizing s written with
  | nil =>
    simp only [expressionLines, List.filter_nil, List.map_nil, List.flatMap_nil, List.append_nil]
    rfl
  | cons line lines ih =>
    cases hskip : isSkipped (Text.trim line) with
    | true =>
      simp only [batch, hskip, if_true, expressionLines_of_skipped hskip]
      exact ih hprompt written
    | false =>
      have hbehind := ih (s := s.counting [s.options.outcome line]) hprompt
        (written ++ Console.encode (s.options.block line))
      rw [options_counting, ← counting_append, List.append_assoc] at hbehind
      rw [on_batch_cons_unprompted hprompt hskip, expressionLines_of_not_skipped hskip]
      exact hbehind

/-- The same on a console directly. -/
theorem run_batch_unprompted {s : Session} (hprompt : s.options.prompt = false)
    (lines : List String) (unread written : List UInt8) :
    Id.run ((s.batch lines : StateT Console Id _).run ⟨unread, written, none⟩) =
      ((s.counting ((expressionLines lines).map s.options.outcome), .ok ()),
        ⟨unread, written ++ ((expressionLines lines).map s.options.block).flatMap Console.encode,
          none⟩) := by
  rw [← on_batch]
  exact on_batch_unprompted hprompt lines unread written

/-- Outcomes count the same in any order. -/
theorem counting_perm (s : Session) {outcomes others : List (Except Error Float)}
    (h : outcomes.Perm others) : s.counting outcomes = s.counting others := by
  rw [counting, counting, h.length_eq, h.countP_eq]

/-- In another order the expressions among lines are the same. -/
theorem expressionLines_perm {lines others : List String} (h : lines.Perm others) :
    (expressionLines lines).Perm (expressionLines others) :=
  h.filter _

/-- The expressions of two batches in a row are those of the one batch that they make. -/
theorem expressionLines_append (lines others : List String) :
    expressionLines (lines ++ others) = expressionLines lines ++ expressionLines others :=
  List.filter_append ..

/-- Without prompts, batches in a row on one session are one batch of all their lines. -/
theorem batches_unprompted {s : Session} (hprompt : s.options.prompt = false)
    (parts : List (List String)) (unread written : List UInt8) :
    Id.run ((parts.foldlM (fun t part => Prod.fst <$> t.batch part) s :
        StateT Console Id Session).run ⟨unread, written, none⟩) =
      (s.counting ((expressionLines parts.flatten).map s.options.outcome),
        ⟨unread, written ++
          ((expressionLines parts.flatten).map s.options.block).flatMap Console.encode, none⟩) := by
  induction parts generalizing s written with
  | nil =>
    simp only [List.flatten_nil, expressionLines, List.filter_nil, List.map_nil, List.flatMap_nil,
      List.append_nil]
    rfl
  | cons part parts ih =>
    have hfirst := run_batch_unprompted hprompt part unread written
    have hbehind := ih (s := s.counting ((expressionLines part).map s.options.outcome)) hprompt
      (written ++ ((expressionLines part).map s.options.block).flatMap Console.encode)
    rw [List.foldlM_cons, StateT.run_bind, StateT.run_map, Id.run_bind, Id.run_map, hfirst, hbehind]
    simp only [List.flatten_cons, expressionLines_append, List.map_append, List.flatMap_append,
      counting_append, options_counting, List.append_assoc]

end Session

open Session in
/-- Without prompts a batch is its expressions one by one. It ends well, reads nothing, and writes
a block for each: the postfix order if it is shown and the brackets match, and the outcome of the
calculation with the presets. It counts all of them, and those without a value as failed. So
another order of the lines gives the same counts, and the same blocks in another order; and lines
may be divided among several batches. -/
theorem batch_eq_blocks {s : Session} (hprompt : s.options.prompt = false)
    (unread written : List UInt8) :
    let run := fun lines =>
      Id.run ((s.batch lines : StateT Console Id _).run ⟨unread, written, none⟩)
    let blocks := fun lines => (expressionLines lines).map s.options.block
    (∀ lines, run lines =
      ((s.counting ((expressionLines lines).map s.options.outcome), .ok ()),
        ⟨unread, written ++ (blocks lines).flatMap Console.encode, none⟩)) ∧
    (∀ lines others, lines.Perm others →
      (run lines).1.1.summary = (run others).1.1.summary ∧
        (blocks lines).Perm (blocks others)) ∧
    ∀ parts : List (List String),
      Id.run ((parts.foldlM (fun t part => Prod.fst <$> t.batch part) s :
        StateT Console Id Session).run ⟨unread, written, none⟩) =
      ((run parts.flatten).1.1, (run parts.flatten).2) := by
  intro run blocks
  have hrun : ∀ lines, run lines =
      ((s.counting ((expressionLines lines).map s.options.outcome), .ok ()),
        ⟨unread, written ++ (blocks lines).flatMap Console.encode, none⟩) :=
    fun lines => run_batch_unprompted hprompt lines unread written
  refine ⟨hrun, ?_, ?_⟩
  · intro lines others hperm
    have hexpressions := expressionLines_perm hperm
    refine ⟨?_, hexpressions.map _⟩
    rw [hrun, hrun, s.counting_perm (hexpressions.map _)]
  · intro parts
    rw [hrun, batches_unprompted hprompt]

/-- A value, a note, a variable without a value and an open bracket. -/
theorem batch_of_mixed_lines :
    let s : Session := ⟨{ presets := .ofList [("x", 2.0)], prompt := false, showRpn := true }, {}⟩
    let result := Id.run ((s.batch ["x + 1", "# note", " ", "y", "(1"] :
      StateT Console Id _).run ⟨[10], [], none⟩)
    s.options.prompt = false ∧ result.1.1.summary = ⟨3, 2⟩ ∧ result.1.2 = .ok () ∧
      result.2 = ⟨[10], Console.encode ("postfix: x 1 +\n=> 3\n" ++
        "postfix: y\nError: no value for variable 'y'\n" ++
        "Error: unbalanced brackets\n"), none⟩ := by
  intro s result
  have hresult := (batch_eq_blocks (s := s) rfl [10] []).1 ["x + 1", "# note", " ", "y", "(1"]
  have hsummary := congrArg (fun result => result.1.1.summary) hresult
  have hconsole := congrArg Prod.snd hresult
  refine ⟨rfl, ?_, congrArg (fun result => result.1.2) hresult, ?_⟩
  · exact hsummary.trans (by decide +kernel)
  · exact hconsole.trans (by decide +kernel)

end Calculator
