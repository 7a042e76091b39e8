import Calculator.Proofs.Traces

/-!
# Traces of sessions

A session leaves an entry behind for each expression: its text, the names that were asked for, and
its outcome. The entries tell the whole output, line by line, what is noted of the expressions, and
the counters. Whether the end of the input was met can be told from the outcomes as well, as long
as the interactive loop goes on.
-/

namespace Calculator

open Text (Unbroken IsLine)

/-- What the evaluation of an expression remarks of its outcome. An error is remarked only when it
is reported. -/
def Remark.reached {ε : Type} : Except ε Float → List Remark
  | .ok value => [.settled (.ok value)]
  | .error _ => []

namespace Noted

theorem tracing_scan (text : String) :
    Tracing (Noted.scan text) fun tokens t =>
      tokens = Token.scan text ∧ t = { notes := [.begun text] } := by
  refine Tracing.bind_silent (tracing_forIn fun c _ => ?_) fun _ => ?_
  · exact (tracing_note _).bind_silent fun _ => tracing_pure rfl
  · refine (tracing_note _).bind ?_
    rintro _ _ rfl
    exact tracing_pure ⟨rfl, rfl⟩

theorem tracing_convert (tokens : List Token) :
    Tracing (Noted.convert tokens) fun reading t =>
      reading = Postfix.ofTokens tokens ∧ t = {} := by
  unfold Noted.convert
  split
  · exact tracing_pure ⟨Eq.symm ‹_›, rfl⟩
  · refine (tracing_note _).bind_silent fun _ => tracing_pure ⟨Eq.symm ‹_›, rfl⟩

/-- Reading a text begins an expression. -/
theorem tracing_read (text : String) :
    Tracing (Noted.read text) fun reading t =>
      reading = Expression.ofText text ∧ t = { notes := [.begun text] } := by
  refine (tracing_scan text).bind ?_
  rintro _ _ ⟨rfl, rfl⟩
  rw [Expression.ofText, Expression.ofTokens]
  cases Brackets.check (Token.scan text) with
  | error e => exact tracing_pure ⟨rfl, rfl⟩
  | ok _ =>
    refine (tracing_convert _).bind ?_
    rintro _ _ ⟨rfl, rfl⟩
    cases Postfix.ofTokens (Token.scan text) <;> exact tracing_pure ⟨rfl, rfl⟩

theorem tracing_evaluate (b : Bindings) (rpn : List Token) :
    Tracing (Noted.evaluate b rpn) fun outcome t =>
      outcome = StackMachine.evaluate b rpn ∧ t = { notes := Remark.reached outcome } := by
  unfold Noted.evaluate
  split
  · exact tracing_pure ⟨Eq.symm ‹_›, rfl⟩
  · refine (tracing_note _).bind ?_
    rintro _ _ rfl
    exact tracing_pure ⟨Eq.symm ‹_›, rfl⟩

end Noted

/-- The input ended before the answer for a variable. -/
def Error.isStarved : Error → Bool
  | .source (.endOfInput _) => true
  | _ => false

/-- What the prompts for names show. -/
def ValueSource.prompts (asked : List String) : String :=
  String.join (asked.map promptText)

/-- Of some names those in `asked` were asked for, in order, and this has come to `outcome`. The end
of the input is met only for want of an answer. -/
structure Inquired {α : Type} (names asked : List String) (outcome : Except Error α)
    (t : Trace Remark) : Prop where
  sublist : asked.Sublist names
  output : t.output = Console.encode (ValueSource.prompts asked)
  starved : t.ended = true → ∃ e, outcome = .error e ∧ e.isStarved = true
  message : ∀ e, outcome = .error e → Unbroken e.message

namespace Inquired

variable {α β : Type} {names more asked others : List String} {t u : Trace Remark}

/-- Nothing is asked for. -/
theorem nothing {outcome : Except Error α} (names : List String) (notes : List Remark)
    (h : ∀ e, outcome = .error e → Unbroken e.message) :
    Inquired names [] outcome { notes := notes } where
  sublist := List.nil_sublist _
  output := by simp [ValueSource.prompts, Console.encode_eq]
  starved := nofun
  message := h

/-- Where everything is known, nothing is asked for. -/
theorem known (names : List String) (value : α) : Inquired names [] (.ok value) {} :=
  nothing names [] fun _ heq => by cases heq

/-- One name is asked for. -/
theorem prompted {name : String} {outcome : Except Error α} {ended : Bool}
    (hstarved : ended = true → ∃ e, outcome = .error e ∧ e.isStarved = true)
    (hmessage : ∀ e, outcome = .error e → Unbroken e.message) :
    Inquired [name] [name] outcome
      { output := Console.encode (ValueSource.promptText name), ended := ended } where
  sublist := List.Sublist.refl _
  output := by simp [ValueSource.prompts]
  starved := hstarved
  message := hmessage

/-- Behind values other names are asked for. -/
theorem append {value : α} {outcome : Except Error β} (hfirst : Inquired names asked (.ok value) t)
    (hothers : Inquired more others outcome u) :
    Inquired (names ++ more) (asked ++ others) outcome (t ++ u) where
  sublist := hfirst.sublist.append hothers.sublist
  output := by
    rw [Trace.append_def, hfirst.output, hothers.output, ← Console.encode_append]
    simp [ValueSource.prompts]
  starved hended := by
    rcases (Bool.or_eq_true _ _).mp hended with hbefore | hbehind
    · obtain ⟨e, heq, -⟩ := hfirst.starved hbefore
      cases heq
    · exact hothers.starved hbehind
  message := hothers.message

/-- Behind a refusal no other names are asked for. -/
theorem refused {e : Error} (h : Inquired names asked (.error e : Except Error α) t)
    (more : List String) : Inquired (names ++ more) asked (.error e : Except Error β) t where
  sublist := h.sublist.trans (List.sublist_append_left names more)
  output := h.output
  starved hended := by
    obtain ⟨_, heq, hstarved⟩ := h.starved hended
    cases heq
    exact ⟨e, rfl, hstarved⟩
  message := by
    rintro _ ⟨⟩
    exact h.message e rfl

end Inquired

/-- What a computation leaves behind that asks for the values of names. -/
def Inquiring {α : Type} (names : List String) (answer : Except SourceError α)
    (t : Trace Remark) : Prop :=
  t.notes = [] ∧ ∃ asked, Inquired names asked (answer.mapError Error.source) t

namespace ValueSource

/-- One name is asked for, and one line is read. -/
theorem tracing_prompting {name : String} (hname : Unbroken name) :
    Tracing (prompting name) (Inquiring [name]) := by
  refine (tracing_write _).bind ?_
  rintro _ _ ⟨rfl, rfl⟩
  refine tracing_readLine.bind ?_
  intro answer t hheard
  cases hheard with
  | @line line hline =>
    refine tracing_pure ⟨rfl, [name], ?_⟩
    rw [Trace.append_empty, Trace.append_empty]
    refine .prompted nofun fun e heq => ?_
    cases hanswer : readAnswer name line with
    | ok value =>
      rw [hanswer] at heq
      cases heq
    | error refusal =>
      rw [hanswer] at heq
      cases heq
      exact unbroken_message_of_readAnswer hname hline hanswer
  | garbled =>
    refine tracing_pure ⟨rfl, [name], ?_⟩
    rw [Trace.append_empty, Trace.append_empty]
    refine .prompted nofun ?_
    rintro _ ⟨⟩
    decide
  | ended =>
    have hmet : ({ output := Console.encode (promptText name) } : Trace Remark) ++
        ({ ended := true } ++ {}) =
          { output := Console.encode (promptText name), ended := true } := by
      simp [Trace.append_def]
    refine tracing_pure ⟨rfl, [name], ?_⟩
    rw [hmet]
    refine .prompted (fun _ => ⟨_, rfl, rfl⟩) ?_
    rintro _ ⟨⟩
    exact (Text.Unbroken.append (by decide) hname).append (by decide)

/-- Names are asked for up to the first refusal. -/
theorem tracing_collect {source : ValueSource (StateT Console Recorded)}
    (hsource : ∀ name, Unbroken name → Tracing (source name) (Inquiring [name]))
    {names : List String} (hnames : ∀ name ∈ names, Unbroken name) (b : Bindings) :
    Tracing (collect source b names) (Inquiring names) := by
  induction names generalizing b with
  | nil => exact tracing_pure ⟨rfl, [], .known [] b⟩
  | cons name names ih =>
    rw [List.forall_mem_cons] at hnames
    refine (hsource name hnames.1).bind ?_
    rintro (e | value) t ⟨hnotes, asked, hfirst⟩
    · refine tracing_pure ?_
      rw [Trace.append_empty]
      exact ⟨hnotes, asked, hfirst.refused names⟩
    · refine (ih hnames.2 _).mono ?_
      rintro answer u ⟨hnone, others, hothers⟩
      refine ⟨?_, asked ++ others, hfirst.append hothers⟩
      rw [Trace.append_def, hnotes, hnone, List.append_nil]

end ValueSource

/-- The variables of an expression are asked for, and then it may come to a value. -/
theorem Expression.tracing_evaluateFrom {source : ValueSource (StateT Console Recorded)}
    (hsource : ∀ name, Unbroken name → Tracing (source name) (Inquiring [name]))
    {text : String} {x : Expression} (hx : ofText text = .ok x) :
    Tracing (x.evaluateFrom source) fun outcome t =>
      t.notes = Remark.reached outcome ∧ ∃ asked, Inquired x.variableNames asked outcome t := by
  have hnames : ∀ name ∈ x.variableNames, Unbroken name := fun _ =>
    unbroken_of_mem_variableNames hx
  have hbind : Tracing (x.bindFrom source) (Inquiring x.variableNames) := by
    refine (ValueSource.tracing_collect hsource hnames _).bind ?_
    rintro (e | b) t hinquired
    · refine tracing_pure ?_
      rwa [Trace.append_empty]
    · refine (tracing_note _).bind_silent fun _ => tracing_pure ?_
      rwa [Trace.append_empty]
  refine hbind.bind ?_
  rintro (e | b) t ⟨hnotes, asked, hinquired⟩
  · refine tracing_pure ?_
    rw [Trace.append_empty]
    exact ⟨hnotes, asked, by simpa using hinquired.refused []⟩
  · refine (Noted.tracing_evaluate b x.rpn).bind ?_
    rintro outcome _ ⟨houtcome, rfl⟩
    have hmessage : ∀ e, outcome.mapError Error.evaluation = .error e → Unbroken e.message := by
      intro e heq
      cases outcome with
      | ok value => cases heq
      | error cause =>
        cases heq
        exact unbroken_message_of_value hx houtcome.symm
    have hreached :
        Remark.reached (outcome.mapError Error.evaluation) = Remark.reached outcome := by
      cases outcome <;> rfl
    refine tracing_pure ⟨?_, asked, ?_⟩
    · simp [Trace.append_def, hnotes, hreached]
    · have hnothing := hinquired.append (.nothing [] (Remark.reached outcome) hmessage)
      simpa using hnothing

namespace Session

theorem tracing_source (s : Session) {name : String} (hname : Unbroken name) :
    Tracing (s.source name) (Inquiring [name]) := by
  unfold source
  split
  · unfold ValueSource.withPresets
    split
    · exact (tracing_note _).bind_silent fun _ => tracing_pure ⟨rfl, [], .known _ _⟩
    · exact ValueSource.tracing_prompting hname
  · unfold ValueSource.ofBindings
    split
    · exact tracing_pure ⟨rfl, [], .known _ _⟩
    · refine tracing_pure ⟨rfl, [], .nothing _ [] ?_⟩
      rintro _ ⟨⟩
      exact (Text.Unbroken.append (by decide) hname).append (by decide)

/-- What a session leaves behind of an expression. -/
structure Entry where
  text : String
  /-- The names that were asked for. -/
  asked : List String
  outcome : Except Error Float

namespace Entry

/-- The lines of an entry: the postfix order, if it is shown, and the outcome, which stands on one
line with the prompts. -/
def lines (o : Options) (entry : Entry) : List String :=
  (o.rpnLine? entry.text).toList ++ [ValueSource.prompts entry.asked ++ reply entry.outcome]

/-- What is noted of an entry. -/
def remarks (entry : Entry) : List Remark :=
  [.begun entry.text, .settled entry.outcome]

/-- The input ended before an answer. -/
def isStarved (entry : Entry) : Bool :=
  match entry.outcome with
  | .error e => e.isStarved
  | .ok _ => false

/-- An expression was evaluated, and its outcome is still to be written. -/
structure Evaluated (o : Options) (entry : Entry) (t : Trace Remark) : Prop where
  sublist : entry.asked.Sublist (Token.variableNames (Token.scan entry.text))
  output : t.output = (o.rpnLine? entry.text).toList.flatMap Console.encode ++
    Console.encode (ValueSource.prompts entry.asked)
  notes : t.notes = .begun entry.text :: Remark.reached entry.outcome
  starved : t.ended = true → entry.isStarved = true
  message : ∀ e, entry.outcome = .error e → Unbroken e.message

/-- The lines of an evaluated entry are lines. -/
theorem Evaluated.isLine {o : Options} {entry : Entry} {t : Trace Remark}
    (h : entry.Evaluated o t) : ∀ line ∈ entry.lines o, IsLine line := by
  have hprompts : Unbroken (ValueSource.prompts entry.asked) := by
    refine Text.unbroken_join fun prompt hprompt => ?_
    obtain ⟨name, hname, rfl⟩ := List.mem_map.mp hprompt
    have hscanned := Token.mem_variableNames.mp (h.sublist.subset hname)
    exact ValueSource.unbroken_promptText (Token.unbroken_of_mem_scan hscanned)
  intro line hline
  rcases List.mem_append.mp hline with hrpn | hreply
  · exact Options.isLine_of_mem_rpnLine? (Option.mem_toList.mp hrpn)
  · rw [List.mem_singleton.mp hreply]
    exact (isLine_reply h.message).append hprompts

end Entry

theorem tracing_writeRpn (s : Session) {text : String} {x : Expression}
    (hx : Expression.ofText text = .ok x) :
    Tracing (s.writeRpn x) fun answer t => answer = .ok () ∧
      t = { output := (s.options.rpnLine? text).toList.flatMap Console.encode } := by
  simp only [writeRpn, Options.rpnLine?, hx]
  split
  · simpa using tracing_write ("postfix: " ++ Token.spaced x.rpn ++ "\n")
  · exact tracing_pure ⟨rfl, rfl⟩

/-- The evaluation of a line gives an entry, up to its outcome. -/
theorem tracing_evaluation (s : Session) (text : String) :
    Tracing (s.evaluation text) fun outcome t =>
      ∃ asked, Entry.Evaluated s.options ⟨text, asked, outcome⟩ t := by
  refine (Noted.tracing_read text).bind ?_
  rintro _ _ ⟨rfl, rfl⟩
  cases hx : Expression.ofText text with
  | error e =>
    refine tracing_pure ⟨[], List.nil_sublist _, ?_, rfl, nofun, ?_⟩
    · simp [Options.rpnLine?, hx, ValueSource.prompts, Console.encode_eq]
    · rintro _ ⟨⟩
      exact BracketError.unbroken_message e
  | ok x =>
    refine (tracing_writeRpn s hx).bind ?_
    rintro _ _ ⟨rfl, rfl⟩
    refine (Expression.tracing_evaluateFrom (fun _ => tracing_source s) hx).mono ?_
    rintro outcome t ⟨hnotes, asked, hinquired⟩
    have hnames : x.variableNames = Token.variableNames (Token.scan text) := by
      rw [Expression.variableNames, (Expression.ofText_eq_ok_iff.mp hx).1]
    refine ⟨asked, hnames ▸ hinquired.sublist, ?_, ?_, ?_, hinquired.message⟩
    · simp [Trace.append_def, hinquired.output]
    · simp [Trace.append_def, hnotes]
    · intro hended
      obtain ⟨e, rfl, hstarved⟩ := hinquired.starved (by simpa [Trace.append_def] using hended)
      exact hstarved

/-- The reply to an outcome settles the expression, unless the outcome is a fault of the terminal,
which is returned. -/
theorem tracing_writeOutcome (s : Session) (text : String) (outcome : Except Error Float) :
    Tracing (s.countEvaluated.writeOutcome text outcome) fun result t =>
      result.2.isOk = true → result.1 = s.counting [outcome] ∧
        t.output = Console.encode (reply outcome) ∧
        Remark.reached outcome ++ t.notes = [.settled outcome] ∧ t.ended = false := by
  -- a value was remarked when it was reached, an error is remarked when it is reported
  cases outcome with
  | ok value =>
    refine (tracing_write _).bind ?_
    rintro _ _ ⟨rfl, rfl⟩
    exact tracing_pure fun _ => ⟨rfl, by rw [Trace.append_empty]; rfl, rfl, rfl⟩
  | error e =>
    cases hfault : e.fault? with
    | some fault =>
      obtain rfl := Error.fault?_eq_some_iff.mp hfault
      exact tracing_pure nofun
    | none =>
      rw [writeOutcome_error hfault]
      refine (tracing_note _).bind ?_
      rintro _ _ rfl
      refine (tracing_write _).bind ?_
      rintro _ _ ⟨rfl, rfl⟩
      exact tracing_pure fun _ => ⟨rfl, by simp [Trace.append_def, reply], rfl, rfl⟩

/-- A session has gone on from `s` to `u` by entries, and `closing` is remarked behind them. -/
structure Logged (s u : Session) (entries : List Entry) (closing : List Remark)
    (t : Trace Remark) : Prop where
  session : u = s.counting (entries.map Entry.outcome)
  output : t.output = (entries.flatMap (Entry.lines s.options)).flatMap Console.encode
  notes : t.notes = entries.flatMap Entry.remarks ++ closing
  sublist : ∀ entry ∈ entries,
    entry.asked.Sublist (Token.variableNames (Token.scan entry.text))
  isLine : ∀ line ∈ entries.flatMap (Entry.lines s.options), IsLine line

/-- What is left behind before the first expression. -/
theorem logged_nil (s : Session) (closing : List Remark) (ended : Bool) :
    s.Logged s [] closing { notes := closing, ended := ended } where
  session := rfl
  output := rfl
  notes := rfl
  sublist := nofun
  isLine := nofun

theorem Logged.append {s u v : Session} {entries others : List Entry} {closing : List Remark}
    {t t' : Trace Remark} (h : s.Logged u entries [] t) (h' : u.Logged v others closing t') :
    s.Logged v (entries ++ others) closing (t ++ t') := by
  have hoptions : u.options = s.options := by rw [h.session, options_counting]
  refine ⟨?_, ?_, ?_, ?_, ?_⟩
  · rw [h'.session, h.session, List.map_append, counting_append]
  · rw [Trace.append_def, h.output, h'.output, hoptions, List.flatMap_append,
      List.flatMap_append]
  · rw [Trace.append_def, h.notes, h'.notes, List.append_nil, List.flatMap_append,
      List.append_assoc]
  · exact List.forall_mem_append.mpr ⟨h.sublist, h'.sublist⟩
  · rw [List.flatMap_append]
    exact List.forall_mem_append.mpr ⟨h.isLine, hoptions ▸ h'.isLine⟩

/-- A line whose evaluation does not come to a fault leaves an entry behind. -/
theorem tracing_respond (s : Session) (text : String) :
    Tracing (s.respond text) fun result t =>
      result.2.isOk = true → ∃ entry : Entry, entry.text = text ∧
        s.Logged result.1 [entry] [] t ∧ (t.ended = true → entry.isStarved = true) := by
  rw [respond_eq]
  refine (tracing_evaluation s.countEvaluated text).bind ?_
  rintro outcome t ⟨asked, hevaluated⟩
  change Entry.Evaluated s.options _ t at hevaluated
  refine (tracing_writeOutcome s text outcome).mono ?_
  intro result u hwritten hok
  obtain ⟨hsession, houtput, hnotes, hended⟩ := hwritten hok
  refine ⟨⟨text, asked, outcome⟩, rfl, ⟨hsession, ?_, ?_, ?_, ?_⟩, ?_⟩
  · rw [Trace.append_def, hevaluated.output, houtput]
    simp [Entry.lines, Console.encode_append]
  · rw [Trace.append_def, hevaluated.notes, List.cons_append, hnotes]
    rfl
  · simpa using hevaluated.sublist
  · simpa using hevaluated.isLine
  · intro hmet
    refine hevaluated.starved ?_
    simpa [Trace.append_def, hended] using hmet

/-- What a turn of the interactive loop makes of what it reads. -/
def heed {m : Type → Type} [Monad m] [Journal m] [Terminal m] (s : Session) :
    Except Fault (Option String) → m Turn
  | .error fault => return .stop s (.error fault)
  | .ok none => return .stop s (.ok ())
  | .ok (some line) =>
    let text := Text.trim line
    if text.isEmpty then return .next s
    else if isExit text then do
      Journal.note .exitRequested
      return .stop s (.ok ())
    else do
      match ← s.respond text with
      | (s, .error fault) => return .stop s (.error fault)
      | (s, .ok _) => return .next s

/-- A turn reads a line and heeds it. -/
theorem turn_eq {m : Type → Type} [Monad m] [Journal m] [Terminal m] (s : Session) :
    (s.turn : m Turn) = Terminal.readLine >>= s.heed := rfl

/-- How a line of the interactive loop can be heeded: it leaves at most one entry behind and the
loop goes on, or it is an exit line, or there is a fault. -/
inductive Heeded (s : Session) : Turn → Trace Remark → Prop where
  | next {u : Session} {entries : List Entry} {t : Trace Remark} (h : s.Logged u entries [] t)
    (hstarved : t.ended = true → ∃ entry ∈ entries, entry.isStarved = true) :
    Heeded s (.next u) t
  | exit : Heeded s (.stop s (.ok ())) { notes := [.left] }
  | fault {u : Session} {fault : Fault} {t : Trace Remark} : Heeded s (.stop u (.error fault)) t

theorem tracing_heed (s : Session) {answer : Except Fault (Option String)}
    (hline : answer ≠ .ok none) : Tracing (s.heed answer) s.Heeded := by
  match answer, hline with
  | .error fault, _ => exact tracing_pure .fault
  | .ok none, hline => exact absurd rfl hline
  | .ok (some line), _ =>
    simp only [heed]
    split
    · exact tracing_pure (.next (logged_nil s [] false) nofun)
    · split
      · refine (tracing_note _).bind ?_
        rintro _ _ rfl
        exact tracing_pure .exit
      · refine (tracing_respond s _).bind ?_
        rintro ⟨u, fault | value⟩ t hentry
        · exact tracing_pure .fault
        · obtain ⟨entry, -, hlogged, hstarved⟩ := hentry rfl
          refine tracing_pure ?_
          rw [Trace.append_empty]
          exact .next hlogged fun hended => ⟨entry, List.mem_singleton_self _, hstarved hended⟩

/-- A turn heeds a line, or meets the end of the input. -/
theorem tracing_turn (s : Session) :
    Tracing s.turn fun turn t =>
      s.Heeded turn t ∨ turn = .stop s (.ok ()) ∧ t = { ended := true } := by
  rw [turn_eq]
  refine tracing_readLine.bind ?_
  intro answer t hheard
  cases hheard with
  | @line text _ =>
    have hline : (.ok (some text) : Except Fault (Option String)) ≠ .ok none := by simp
    refine (tracing_heed s hline).mono fun turn u hheeded => Or.inl ?_
    rwa [Trace.empty_append]
  | garbled => exact tracing_pure (Or.inl .fault)
  | ended => exact tracing_pure (Or.inr ⟨rfl, rfl⟩)

/-- What a session leaves behind that does not come to a fault: entries, and a remark if the
interactive loop was left by an exit line. -/
def Leaves (s : Session) (result : Session × Except Fault Unit) (t : Trace Remark) : Prop :=
  result.2 = .ok () → ∃ entries closing,
    s.Logged result.1 entries closing t ∧ (closing = [] ∨ closing = [.left])

/-- Where nothing happens, nothing is left behind. -/
theorem leaves_nothing (s : Session) (ended : Bool) : s.Leaves (s, .ok ()) { ended := ended } :=
  fun _ => ⟨[], [], logged_nil s [] ended, Or.inl rfl⟩

theorem Logged.leaves {s u : Session} {entries : List Entry} {result : Session × Except Fault Unit}
    {t t' : Trace Remark} (h : s.Logged u entries [] t) (h' : u.Leaves result t') :
    s.Leaves result (t ++ t') := by
  intro hok
  obtain ⟨others, closing, hlogged, hclosing⟩ := h' hok
  exact ⟨entries ++ others, closing, h.append hlogged, hclosing⟩

theorem tracing_turns (n : Nat) (s : Session) : Tracing (turns n s) s.Leaves := by
  induction n generalizing s with
  | zero => exact tracing_pure (leaves_nothing s false)
  | succ n ih =>
    refine (tracing_turn s).bind ?_
    rintro _ _ ((⟨hlogged, -⟩ | _ | _) | ⟨rfl, rfl⟩)
    · exact (ih _).mono fun _ _ => hlogged.leaves
    · exact tracing_pure fun _ => ⟨[], [.left], logged_nil s [.left] false, Or.inr rfl⟩
    · exact tracing_pure nofun
    · exact tracing_pure (leaves_nothing s true)

theorem tracing_batch (s : Session) (lines : List String) :
    Tracing (s.batch lines) s.Leaves := by
  induction lines generalizing s with
  | nil =>
    exact (tracing_note _).bind_silent fun _ => tracing_pure (leaves_nothing s false)
  | cons line lines ih =>
    unfold batch
    simp only
    split
    · exact ih s
    · refine (tracing_respond s _).bind ?_
      rintro ⟨u, fault | value⟩ t hentry
      · exact tracing_pure nofun
      · obtain ⟨entry, -, hlogged, -⟩ := hentry rfl
        exact (ih u).mono fun _ _ => hlogged.leaves

/-- Whatever a session is called to do, it does it whatever was written before. -/
theorem exists_run_perform (s : Session) (call : Call) (unread : List UInt8) :
    ∃ result, ∃ t : Trace Event, ∃ left,
      (∀ written, (s.perform call : StateT Console Recorded _).run ⟨unread, written, none⟩ =
        ⟨(result, ⟨left, written ++ t.output, none⟩), t.notes⟩) ∧
      s.Leaves result t.remarks := by
  cases call with
  | line text =>
    have hline : Tracing (s.perform (.line text)) s.Leaves := by
      refine (tracing_respond s text).bind ?_
      rintro ⟨u, fault | value⟩ t hentry
      · exact tracing_pure nofun
      · obtain ⟨entry, -, hlogged, -⟩ := hentry rfl
        refine tracing_pure fun _ => ?_
        rw [Trace.append_empty]
        exact ⟨[entry], [], hlogged, Or.inl rfl⟩
    obtain ⟨result, t, left, hpassage, hleaves⟩ := hline unread
    exact ⟨result, t, left, hpassage.run, hleaves⟩
  | interact =>
    -- how many turns there can be depends on what is left to read, not on what was written
    obtain ⟨result, t, left, hpassage, hleaves⟩ :=
      tracing_turns ((⟨unread, [], none⟩ : Console).lineCount + 1) s unread
    exact ⟨result, t, left, hpassage.run, hleaves⟩
  | batch lines =>
    obtain ⟨result, t, left, hpassage, hleaves⟩ := tracing_batch s lines unread
    exact ⟨result, t, left, hpassage.run, hleaves⟩

end Session

end Calculator
