import Calculator.Proofs.Batches

/-!
# Interviews

With prompts, a session asks for values while it evaluates a line, and the answers are lines of an
input of their own. The prompts of a whole batch take these lines one by one, however many each
expression has use for.
-/

namespace Calculator

open Conversation
open Reporting (fault?)

/-- A prompt for the value of a variable, and the line that was read behind it, if there was one
left. -/
structure Question where
  name : String
  line : Option String

/-- What the line of a question comes to as the answer. -/
inductive Question.Answered (q : Question) : Except SourceError Float → Prop where
  /-- The line is a numeral with any blanks around it. -/
  | number {line numeral : String} {value : Float} (hline : q.line = some line)
    (hpadded : Text.Padded numeral line) (hvalue : Number.parse? numeral = some value) :
    Answered q (.ok value)
  /-- The line is anything else, and is quoted without the blanks around it. -/
  | invalid {line text : String} (hline : q.line = some line) (hpadded : Text.Padded text line)
    (hbare : Text.Bare text)
    (hnone : ∀ numeral, Text.Padded numeral line → Number.parse? numeral = none) :
    Answered q (.error (.invalidValue q.name text))
  /-- No line was left. -/
  | missing (hline : q.line = none) : Answered q (.error (.endOfInput q.name))

namespace Question

/-- The prompt is written whole, and then the line is read. -/
def exchanges (q : Question) : List Exchange :=
  [.said ("Enter the value of '" ++ q.name ++ "': ") (.ok ()), .heard (.ok q.line)]

/-- A table with the values of answers, one after the other. -/
def extended (b : Bindings) (answers : List (Question × Float)) : Bindings :=
  answers.foldl (fun b answer => b.insert answer.1.name answer.2) b

/-- What the line is read as. -/
def answer (q : Question) : Except SourceError Float :=
  match q.line with
  | none => .error (.endOfInput q.name)
  | some line => ValueSource.readAnswer q.name line

/-- A line is read as what it comes to as an answer. -/
theorem answered_answer (q : Question) : q.Answered q.answer := by
  obtain ⟨name, line⟩ := q
  cases line with
  | none => exact .missing rfl
  | some line =>
    have hpadded := Text.padded_trim line
    simp only [answer, ValueSource.readAnswer]
    cases hparse : Number.parse? (Text.trim line) with
    | some value => exact .number rfl hpadded hparse
    | none =>
      refine .invalid rfl hpadded (Text.bare_trim line) ?_
      intro numeral hnumeral
      -- a numeral has no blanks, so it would be the trimmed line
      by_contra hsome
      obtain ⟨value, hvalue⟩ := Option.ne_none_iff_exists'.mp hsome
      have hbare := Text.bare_of_visible (Number.visible_of_parse? hvalue)
      rw [hnumeral.trim_eq hbare, hvalue] at hparse
      cases hparse

/-- A table with the answers to questions, if all of them are numbers. -/
def extend (b : Bindings) : List Question → Except SourceError Bindings
  | [] => .ok b
  | q :: questions =>
    match q.answer with
    | .ok value => extend (b.insert q.name value) questions
    | .error e => .error e

/-- The questions for variables while there are lines to read. Each takes the next line, and the
first without a number for an answer is the last. -/
def asked : List String → List String → List Question
  | [], _ => []
  | name :: names, lines =>
    let first : Question := ⟨name, lines.head?⟩
    match first.answer with
    | .ok _ => first :: asked names lines.tail
    | .error _ => [first]

/-- Behind an answer that is a number the other variables are asked for. -/
theorem asked_of_ok {name : String} {lines : List String} {value : Float}
    (h : Question.answer ⟨name, lines.head?⟩ = .ok value) (names : List String) :
    asked (name :: names) lines = ⟨name, lines.head?⟩ :: asked names lines.tail := by
  simp only [asked, h]

/-- Behind an answer that is none nothing else is asked for. -/
theorem asked_of_error {name : String} {lines : List String} {e : SourceError}
    (h : Question.answer ⟨name, lines.head?⟩ = .error e) (names : List String) :
    asked (name :: names) lines = [⟨name, lines.head?⟩] := by
  simp only [asked, h]

/-- Either each variable is asked for and all answers are numbers, or the variables are asked for up
to the first whose answer is none. -/
theorem asked_cases (b : Bindings) (names lines : List String) :
    (∃ answers : List (Question × Float), asked names lines = answers.map Prod.fst ∧
      extend b (asked names lines) = .ok (extended b answers) ∧
      answers.map (fun answer => answer.1.name) = names ∧
      ∀ answer ∈ answers, answer.1.Answered (.ok answer.2)) ∨
    ∃ e questions last, asked names lines = questions ++ [last] ∧
      extend b (asked names lines) = .error e ∧
      (questions ++ [last]).map Question.name <+: names ∧
      (∀ q ∈ questions, ∃ value, q.Answered (.ok value)) ∧ last.Answered (.error e) := by
  induction names generalizing b lines with
  | nil => exact .inl ⟨[], rfl, rfl, rfl, by simp⟩
  | cons name names ih =>
    have hfirst := answered_answer ⟨name, lines.head?⟩
    cases hanswer : Question.answer ⟨name, lines.head?⟩ with
    | error e =>
      rw [hanswer] at hfirst
      rw [asked_of_error hanswer]
      refine .inr ⟨e, [], ⟨name, lines.head?⟩, rfl, ?_, ?_, by simp, hfirst⟩
      · simp only [extend, hanswer]
      · exact List.prefix_append [name] names
    | ok value =>
      have hextend : extend b (⟨name, lines.head?⟩ :: asked names lines.tail) =
          extend (b.insert name value) (asked names lines.tail) := by
        simp only [extend, hanswer]
      rw [hanswer] at hfirst
      rw [asked_of_ok hanswer, hextend]
      obtain ⟨answers, hasked, hknown, hnames, hanswers⟩ |
        ⟨e, questions, last, hasked, herror, hprefix, hearlier, hlast⟩ :=
        ih (b.insert name value) lines.tail
      · refine .inl ⟨(⟨name, lines.head?⟩, value) :: answers, ?_, hknown, ?_, ?_⟩
        · rw [hasked, List.map_cons]
        · rw [List.map_cons, hnames]
        · exact List.forall_mem_cons.mpr ⟨hfirst, hanswers⟩
      · refine .inr ⟨e, ⟨name, lines.head?⟩ :: questions, last, ?_, herror, ?_, ?_, hlast⟩
        · rw [hasked, List.cons_append]
        · rw [List.cons_append, List.map_cons]
          exact (List.prefix_cons_inj name).mpr hprefix
        · exact List.forall_mem_cons.mpr ⟨⟨value, hfirst⟩, hearlier⟩

/-- Questions take lines in order: each that is asked has the line in its place, or none if there
are not so many lines. -/
def Paired (questions : List Question) (lines : List String) : Prop :=
  ∀ (k : Nat) (q : Question), questions[k]? = some q → q.line = lines[k]?

theorem paired_nil (lines : List String) : Paired [] lines := by
  intro k q hq
  cases hq

theorem paired_cons {name : String} {questions : List Question} {lines : List String}
    (h : Paired questions lines.tail) : Paired (⟨name, lines.head?⟩ :: questions) lines := by
  intro k q hq
  cases k with
  | zero =>
    cases hq
    exact List.head?_eq_getElem?
  | succ k =>
    rw [← List.getElem?_tail]
    exact h k q hq

theorem Paired.append {questions others : List Question} {lines : List String}
    (h : Paired questions lines) (hothers : Paired others (lines.drop questions.length)) :
    Paired (questions ++ others) lines := by
  intro k q hq
  by_cases hk : k < questions.length
  · rw [List.getElem?_append_left hk] at hq
    exact h k q hq
  · -- the others start where the first have stopped
    have hle : questions.length ≤ k := Nat.le_of_not_lt hk
    rw [List.getElem?_append_right hle] at hq
    have hline := hothers (k - questions.length) q hq
    rwa [List.getElem?_drop, Nat.add_sub_cancel' hle] at hline

/-- What is asked takes the lines in order. -/
theorem paired_asked (names lines : List String) : Paired (asked names lines) lines := by
  induction names generalizing lines with
  | nil => exact paired_nil lines
  | cons name names ih =>
    simp only [asked]
    split
    · exact paired_cons (ih lines.tail)
    · exact paired_cons (paired_nil lines.tail)

end Question

open Question

/-- What happens between a session and its terminal for one expression, and what it comes to. -/
structure Interview where
  text : String
  questions : List Question
  outcome : Except Error Float

/-- An interview keeps to the rules. Nothing is asked if the brackets do not match. Otherwise the
variables without a preset value are asked for in the order of their first appearance, up to the
first that is not answered with a number, which is then the error; and if all are, the expression
is evaluated with the presets and these answers. -/
inductive Interview.Conducted (presets : Bindings) : Interview → Prop where
  | unbalanced {text : String} (hbrackets : Brackets.balanced (Token.scan text) = false) :
    Conducted presets ⟨text, [], .error (.brackets .unbalanced)⟩
  | answered {text : String} {rpn : List Token} {answers : List (Question × Float)}
    (hrpn : Postfix.ofTokens (Token.scan text) = .ok rpn)
    (hnames : answers.map (fun answer => answer.1.name) =
      Token.unknowns presets (Token.scan text))
    (hanswers : ∀ answer ∈ answers, answer.1.Answered (.ok answer.2)) :
    Conducted presets ⟨text, answers.map Prod.fst,
      (StackMachine.evaluate (extended presets answers) rpn).mapError .evaluation⟩
  | refused {text : String} {rpn : List Token} {questions : List Question} {last : Question}
    {e : SourceError} (hrpn : Postfix.ofTokens (Token.scan text) = .ok rpn)
    (hnames : (questions ++ [last]).map Question.name <+:
      Token.unknowns presets (Token.scan text))
    (hearlier : ∀ q ∈ questions, ∃ value, q.Answered (.ok value))
    (hlast : last.Answered (.error e)) :
    Conducted presets ⟨text, questions ++ [last], .error (.source e)⟩

/-- What happens at the terminal in an interview: the postfix order is shown if the options ask for
it, the questions are put, and the outcome is written. -/
def Interview.exchanges (o : Session.Options) (i : Interview) : List Exchange :=
  o.announced i.text ++ i.questions.flatMap Question.exchanges ++
    [.said (Session.reply i.outcome) (.ok ())]

/-- The outcome of an expression whose variables have values, or of which one was refused. -/
def Expression.outcome (x : Expression) : Except SourceError Bindings → Except Error Float
  | .ok b => (x.value b).mapError .evaluation
  | .error e => .error (.source e)

/-- The interview about a text while there are lines to read. -/
def Interview.about (presets : Bindings) (text : String) (lines : List String) : Interview :=
  match Expression.ofText text with
  | .error e => ⟨text, [], .error (.brackets e)⟩
  | .ok x =>
    let questions := asked (Token.unknowns presets x.tokens) lines
    ⟨text, questions, x.outcome (extend presets questions)⟩

/-- The interviews about texts, each with the lines that those before it have left. -/
def Interview.aboutAll (presets : Bindings) : List String → List String → List Interview
  | [], _ => []
  | text :: texts, lines =>
    let first := about presets text lines
    first :: aboutAll presets texts (lines.drop first.questions.length)

/-- An interview keeps to the rules, and takes the lines in order. -/
theorem Interview.conducted_about (presets : Bindings) (text : String) (lines : List String) :
    (about presets text lines).Conducted presets ∧
      Paired (about presets text lines).questions lines := by
  unfold about
  cases hx : Expression.ofText text with
  | error e =>
    obtain ⟨hbrackets, rfl⟩ := Expression.ofText_eq_error hx
    exact ⟨.unbalanced hbrackets, paired_nil lines⟩
  | ok x =>
    refine ⟨?_, paired_asked _ lines⟩
    obtain ⟨htokens, hrpn⟩ := Expression.ofText_eq_ok_iff.mp hx
    obtain ⟨answers, hasked, hknown, hnames, hanswers⟩ |
      ⟨e, questions, last, hasked, herror, hprefix, hearlier, hlast⟩ :=
      asked_cases presets (Token.unknowns presets x.tokens) lines
    · rw [hasked] at hknown
      rw [htokens] at hnames
      simp only [hasked, hknown]
      exact .answered hrpn hnames hanswers
    · rw [hasked] at herror
      rw [htokens] at hprefix
      simp only [hasked, herror]
      exact .refused hrpn hprefix hearlier hlast

/-- The interviews about texts keep to the rules, one for each text, and together they take the
lines in order. -/
theorem Interview.conducted_aboutAll (presets : Bindings) (texts lines : List String) :
    (aboutAll presets texts lines).map Interview.text = texts ∧
      (∀ i ∈ aboutAll presets texts lines, i.Conducted presets) ∧
      Paired ((aboutAll presets texts lines).flatMap Interview.questions) lines := by
  induction texts generalizing lines with
  | nil => exact ⟨rfl, by simp [aboutAll], paired_nil lines⟩
  | cons text texts ih =>
    obtain ⟨hconducted, hpaired⟩ := Interview.conducted_about presets text lines
    obtain ⟨htexts, hothers, hlater⟩ :=
      ih (lines.drop (about presets text lines).questions.length)
    have htext : (about presets text lines).text = text := by
      unfold about
      split <;> rfl
    refine ⟨?_, List.forall_mem_cons.mpr ⟨hconducted, hothers⟩, hpaired.append hlater⟩
    rw [aboutAll, List.map_cons, htext, htexts]

/-- The outcome of an interview is no fault of the terminal. -/
theorem Interview.Conducted.fault?_outcome {presets : Bindings} {i : Interview}
    (h : i.Conducted presets) : fault? i.outcome = none := by
  cases h with
  | unbalanced hbrackets => rfl
  | @answered text rpn answers hrpn hnames hanswers =>
    show fault? ((StackMachine.evaluate (extended presets answers) rpn).mapError Error.evaluation) =
      none
    cases StackMachine.evaluate (extended presets answers) rpn <;> rfl
  | refused hrpn hnames hearlier hlast => cases hlast <;> rfl

namespace Conversation

/-- Reading takes the first of the lines, if there is one. -/
theorem course_readLine {lines : List String}
    (hlines : Console.AreLines (lines.map Console.encode)) :
    (Terminal.readLine : Conversation _).Course (lines.map Console.encode).flatten
      [.heard (.ok lines.head?)] (.ok lines.head?) (lines.tail.map Console.encode).flatten where
  transcript written := by
    have hread := (Console.readLine_ofTexts hlines written).1
    show [Exchange.heard (Console.ofTexts lines written).readLine.1] = _
    rw [hread]
  on written := by
    have hread := (Console.readLine_ofTexts hlines written).1
    show (Console.ofTexts lines written).readLine = _
    rw [hread]
    simp [Exchange.bytes, Console.ofTexts]

end Conversation

namespace ValueSource

/-- A prompt puts a question with the next line. -/
theorem course_prompting {lines : List String}
    (hlines : Console.AreLines (lines.map Console.encode)) (name : String) :
    (prompting name : Conversation _).Course (lines.map Console.encode).flatten
      (Question.exchanges ⟨name, lines.head?⟩) (Question.answer ⟨name, lines.head?⟩)
      (lines.tail.map Console.encode).flatten := by
  show (prompting name : Conversation _).Course _
    ([.said (promptText name) (.ok ())] ++ ([.heard (.ok lines.head?)] ++ [])) _ _
  refine (course_write (promptText name) _).bind ((course_readLine hlines).bind ?_)
  cases lines <;> exact course_pure _ _

end ValueSource

/-- Values are collected from presets and answers by asking for the variables that have no preset
value. For the expression it is as if the answers had been added to the presets. -/
theorem course_collect {text : String} {x : Expression} (hx : Expression.ofText text = .ok x)
    {presets acc known : Bindings} {names lines : List String}
    (hlines : Console.AreLines (lines.map Console.encode))
    (hcollecting : x.Collecting presets acc known names) :
    let questions := asked (names.filter fun name => (presets.get? name).isNone) lines
    ∃ collected, (ValueSource.collect (.withPresets presets .prompting) acc names :
        Conversation _).Course (lines.map Console.encode).flatten
          (questions.flatMap Question.exchanges) collected
          ((lines.drop questions.length).map Console.encode).flatten ∧
      x.outcome collected = x.outcome (extend known questions) := by
  induction names generalizing acc known lines with
  | nil =>
    refine ⟨.ok acc, course_pure _ _, ?_⟩
    simp only [Expression.outcome, hcollecting.value_eq hx, List.filter_nil, asked, extend]
  | cons name names ih =>
    cases hpreset : presets.get? name with
    | some value =>
      have hunknown : (name :: names).filter (fun name => (presets.get? name).isNone) =
          names.filter fun name => (presets.get? name).isNone := by simp [hpreset]
      rw [ValueSource.collect_of_preset hpreset, hunknown]
      exact ih hlines (hcollecting.preset hpreset)
    | none =>
      have hunknown : (name :: names).filter (fun name => (presets.get? name).isNone) =
          name :: names.filter fun name => (presets.get? name).isNone := by simp [hpreset]
      have hprompting := ValueSource.course_prompting hlines name
      simp only [ValueSource.collect, ValueSource.withPresets, hpreset, hunknown]
      cases hanswer : Question.answer ⟨name, lines.head?⟩ with
      | error e =>
        rw [hanswer] at hprompting
        rw [asked_of_error hanswer, List.length_singleton, List.drop_one]
        refine ⟨.error e, hprompting.bind (course_pure _ _), ?_⟩
        simp only [Expression.outcome, extend, hanswer]
      | ok value =>
        rw [hanswer] at hprompting
        -- the answer is in both tables from here on, and its line is gone
        rw [asked_of_ok hanswer, List.length_cons, ← List.drop_tail]
        obtain ⟨collected, hcourse, houtcome⟩ :=
          ih (Console.readLine_ofTexts hlines []).2 (hcollecting.answer hpreset value)
        refine ⟨collected, hprompting.bind hcourse, ?_⟩
        rw [houtcome]
        simp only [extend, hanswer]

/-- With prompts, an expression has an outcome by way of its questions. -/
theorem course_evaluateFrom {text : String} {x : Expression} (hx : Expression.ofText text = .ok x)
    {s : Session} (hprompt : s.options.prompt = true) {lines : List String}
    (hlines : Console.AreLines (lines.map Console.encode)) :
    let questions := asked (Token.unknowns s.options.presets x.tokens) lines
    (x.evaluateFrom s.source : Conversation _).Course (lines.map Console.encode).flatten
      (questions.flatMap Question.exchanges) (x.outcome (extend s.options.presets questions))
      ((lines.drop questions.length).map Console.encode).flatten := by
  intro questions
  have hsource : (s.source : ValueSource Conversation) =
      .withPresets s.options.presets .prompting := by simp [Session.source, hprompt]
  obtain ⟨collected, hcourse, houtcome⟩ :
      ∃ collected, (ValueSource.collect s.source .empty x.variableNames : Conversation _).Course _
          (questions.flatMap Question.exchanges) collected _ ∧
        x.outcome collected = x.outcome (extend s.options.presets questions) := by
    rw [hsource]
    exact course_collect hx hlines (.start x s.options.presets)
  rw [Expression.evaluateFrom_eq, ← houtcome, ← List.append_nil (questions.flatMap _)]
  refine hcourse.bind ?_
  cases collected <;> exact course_pure _ _

namespace Session

/-- The postfix order of a trimmed line is that of the line. -/
theorem Options.announced_trim (o : Options) (line : String) :
    o.announced (Text.trim line) = o.announced line := by
  rw [announced, rpnLine?, Expression.ofText_trim, announced, rpnLine?]

/-- With prompts, a trimmed line is evaluated in an interview about the line. -/
theorem course_respond_prompted {s : Session} (hprompt : s.options.prompt = true)
    {answers : List String} (hanswers : Console.AreLines (answers.map Console.encode))
    (line : String) :
    let i := Interview.about s.options.presets line answers
    (s.respond (Text.trim line) : Conversation _).Course (answers.map Console.encode).flatten
      (i.exchanges s.options) (s.counting [i.outcome], .ok i.outcome.toOption)
      ((answers.drop i.questions.length).map Console.encode).flatten := by
  intro i
  have hfault : fault? i.outcome = none :=
    (Interview.conducted_about s.options.presets line answers).1.fault?_outcome
  have hcourse : (s.countEvaluated.evaluation (Text.trim line) : Conversation _).Course
      (answers.map Console.encode).flatten
      (s.options.announced i.text ++ i.questions.flatMap Question.exchanges) i.outcome
      ((answers.drop i.questions.length).map Console.encode).flatten := by
    have hread := Expression.ofText_trim line
    simp only [i, Interview.about]
    cases hx : Expression.ofText line with
    | error e =>
      rw [List.flatMap_nil, List.append_nil, ← s.options.announced_trim]
      exact course_evaluation_error (hread.trans hx) s.countEvaluated _
    | ok x =>
      simp only [← s.options.announced_trim line]
      exact course_evaluation_ok (hread.trans hx) (course_evaluateFrom hx hprompt hanswers)
  exact course_respond hfault hcourse

/-- With prompts, a batch is one interview after the other. -/
theorem course_batch_prompted {s : Session} (hprompt : s.options.prompt = true)
    {answers : List String} (hanswers : Console.AreLines (answers.map Console.encode))
    (lines : List String) :
    let all := Interview.aboutAll s.options.presets (expressionLines lines) answers
    (s.batch lines : Conversation _).Course (answers.map Console.encode).flatten
      (all.flatMap (Interview.exchanges s.options))
      (s.counting (all.map Interview.outcome), .ok ())
      ((answers.drop (all.flatMap Interview.questions).length).map Console.encode).flatten := by
  induction lines generalizing s answers with
  | nil => exact course_pure _ _
  | cons line lines ih =>
    cases hskip : isSkipped (Text.trim line) with
    | true =>
      simp only [batch, hskip, if_true, expressionLines_of_skipped hskip]
      exact ih hprompt hanswers
    | false =>
      have hfirst := course_respond_prompted hprompt hanswers line
      have hleft := Console.areLines_drop hanswers
        (Interview.about s.options.presets line answers).questions.length
      have hothers := ih (s := s.counting
        [(Interview.about s.options.presets line answers).outcome]) hprompt hleft
      simp only [← counting_append, List.drop_drop, ← List.length_append] at hothers
      simp only [batch, hskip, expressionLines_of_not_skipped hskip]
      exact hfirst.bind hothers

end Session

open Session in
/-- With prompts, a batch is one interview after the other, and the questions of all of them take
the lines of the answers in order. Nothing else is read, and what the answers to one expression
are does not matter to another. -/
theorem batch_pairs_answers {s : Session} (hprompt : s.options.prompt = true)
    (lines : List String) (answers : String) (written : List UInt8) :
    let c : Console := ⟨Console.encode answers, written, none⟩
    ∃ interviews : List Interview,
      interviews.map Interview.text = expressionLines lines ∧
      (∀ i ∈ interviews, i.Conducted s.options.presets) ∧
      (∀ (k : Nat) (q : Question), (interviews.flatMap Interview.questions)[k]? = some q →
        q.line = (Console.textLines answers)[k]?) ∧
      (s.batch lines : Conversation _).transcript c =
        interviews.flatMap (Interview.exchanges s.options) ∧
      (s.batch lines : Conversation _).on c =
        Id.run ((s.batch lines : StateT Console Id _).run c) ∧
      Id.run ((s.batch lines : StateT Console Id _).run c) =
        ((s.counting (interviews.map Interview.outcome), .ok ()),
          Console.ofTexts
            ((Console.textLines answers).drop (interviews.flatMap Interview.questions).length)
            (written ++ (interviews.flatMap (Interview.exchanges s.options)).flatMap
              Exchange.bytes)) := by
  intro c
  obtain ⟨htexts, hconducted, hpaired⟩ := Interview.conducted_aboutAll s.options.presets
    (expressionLines lines) (Console.textLines answers)
  have hcourse := course_batch_prompted hprompt (Console.areLines_textLines answers) lines
  have hc : c = Console.ofTexts (Console.textLines answers) written :=
    (Console.ofTexts_textLines answers written).symm
  refine ⟨_, htexts, hconducted, hpaired, ?_, by rw [on_batch]; rfl, ?_⟩
  · rw [hc]
    exact hcourse.transcript written
  · rw [← on_batch, hc]
    exact hcourse.on written

/-- Two answers with blanks and line ends around them, brackets that do not match, an answer that is
refused, a variable that is asked for again, and no line left for an answer. -/
theorem batch_of_five_interviews :
    let s : Session := ⟨{ presets := .ofList [("y", 2.0)] }, {}⟩
    let lines := ["x + y * z", "# note", "\t", "(x", " u - v", "z", "w"]
    let answers := " 3\t\n4\u00a0\r\nfive \n -1.5e1 "
    let c : Console := ⟨Console.encode answers, [], none⟩
    let result := Id.run ((s.batch lines : StateT Console Id _).run c)
    s.options.prompt = true ∧ result.1.1.summary = ⟨5, 3⟩ ∧ result.1.2 = .ok () ∧
      result.2 = ⟨[], ["Enter the value of 'x': Enter the value of 'z': => 11\n",
        "Error: unbalanced brackets\n",
        "Enter the value of 'u': Error: invalid value 'five' for variable 'u'\n",
        "Enter the value of 'z': => -15\n", "Enter the value of 'w': ",
        "Error: input ended before a value for 'w' was given\n"].flatMap Console.encode, none⟩ ∧
      ∃ interviews : List Interview,
        interviews.map Interview.text = ["x + y * z", "(x", " u - v", "z", "w"] ∧
        (∀ i ∈ interviews, i.Conducted s.options.presets) ∧
        (∀ (k : Nat) (q : Question), (interviews.flatMap Interview.questions)[k]? = some q →
          q.line = [" 3\t\n", "4\u00a0\r\n", "five \n", " -1.5e1 "][k]?) ∧
        interviews.flatMap (Interview.exchanges s.options) =
          [.said "Enter the value of 'x': " (.ok ()), .heard (.ok (some " 3\t\n")),
            .said "Enter the value of 'z': " (.ok ()), .heard (.ok (some "4\u00a0\r\n")),
            .said "=> 11\n" (.ok ()), .said "Error: unbalanced brackets\n" (.ok ()),
            .said "Enter the value of 'u': " (.ok ()), .heard (.ok (some "five \n")),
            .said "Error: invalid value 'five' for variable 'u'\n" (.ok ()),
            .said "Enter the value of 'z': " (.ok ()), .heard (.ok (some " -1.5e1 ")),
            .said "=> -15\n" (.ok ()),
            .said "Enter the value of 'w': " (.ok ()), .heard (.ok none),
            .said "Error: input ended before a value for 'w' was given\n" (.ok ())] ∧
        result.1.1 = s.counting (interviews.map Interview.outcome) := by
  intro s lines answers c result
  obtain ⟨interviews, htexts, hconducted, hpaired, htranscript, -, hrun⟩ :=
    batch_pairs_answers (s := s) rfl lines answers []
  have hlines : Console.textLines answers =
      [" 3\t\n", "4\u00a0\r\n", "five \n", " -1.5e1 "] := by decide +kernel
  rw [hlines] at hpaired
  refine ⟨rfl, by decide +kernel, congrArg (fun result => result.1.2) hrun, by decide +kernel,
    interviews, htexts.trans (by decide +kernel), hconducted, hpaired,
    htranscript.symm.trans (by decide +kernel), ?_⟩
  exact congrArg (fun result => result.1.1) hrun

end Calculator
