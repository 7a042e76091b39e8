import Calculator.Proofs.Conversation
import Calculator.Proofs.Padding
import Mathlib.Data.List.Forall2

/-!
# Dialogues

The interactive loop reads expressions and the answers to its prompts from one input. Which of the
two a line is has been settled before it is read. A dialogue says so explicitly: it takes whole
lines, one after the other, each in the one role that is due. What it does with a line is written
out here by itself, down to the counters, the prompts and the tests of a line, and what it counts
and writes is what the interactive loop counts and writes.
-/

namespace Calculator

/-- The variables among tokens that have no value in a table, in the order of their first
appearance. -/
def Token.unknowns (presets : Bindings) (tokens : List Token) : List String :=
  (tokens.filterMap variableName?).eraseDups.filter fun name => (presets.get? name).isNone

/-- What the next line of a dialogue is for. -/
inductive Dialogue.Role where
  /-- The line is an expression, if it is not blank and does not end the dialogue. -/
  | expression
  /-- The line is the value of the variable `name` of the expression with the postfix order `rpn`.
  The values in `known` are there, and those of `others` are asked for afterwards. -/
  | answer (rpn : List Token) (known : Bindings) (name : String) (others : List String)

/-- A dialogue between two lines. -/
structure Dialogue where
  /-- The options, and what has been counted. -/
  session : Session
  /-- All that has been written. -/
  written : List UInt8
  /-- What the next line is for. -/
  role : Dialogue.Role := .expression

namespace Dialogue

/-- Writes a text. -/
def say (d : Dialogue) (text : String) : Dialogue :=
  { d with written := d.written ++ text.toUTF8.toList }

/-- Writes the error of an expression, which is one more that failed. The next line is an
expression. -/
def fail (d : Dialogue) (e : Error) : Dialogue :=
  { d.say (e.message ++ "\n") with
    session.summary.failed := d.session.summary.failed + 1
    role := .expression }

/-- Writes the value of an expression whose variables have values, or its error. The next line is
an expression. -/
def finish (d : Dialogue) (rpn : List Token) (known : Bindings) : Dialogue :=
  match StackMachine.evaluate known rpn with
  | .ok value => { d.say ("=> " ++ Number.text value ++ "\n") with role := .expression }
  | .error e => d.fail (.evaluation e)

/-- Asks for the value of the first of some variables of an expression, for which the next line
is. -/
def ask (d : Dialogue) (rpn : List Token) (known : Bindings) : List String → Dialogue
  | [] => d.finish rpn known
  | name :: others =>
    { d.say ("Enter the value of '" ++ name ++ "': ") with role := .answer rpn known name others }

/-- Takes a line as an expression, which is one more that was evaluated. It asks for the variables
that have no preset value, or refuses the first of them if there are no prompts. Nothing is asked
for if the brackets do not match. -/
def start (d : Dialogue) (line : String) : Dialogue :=
  let d := { d with session.summary.evaluated := d.session.summary.evaluated + 1 }
  let options := d.session.options
  match Postfix.ofTokens (Token.scan line) with
  | .error _ => d.fail (.brackets .unbalanced)
  | .ok rpn =>
    let d := if options.showRpn then d.say ("postfix: " ++ Token.spaced rpn ++ "\n") else d
    let unknowns := Token.unknowns options.presets (Token.scan line)
    if options.prompt then d.ask rpn options.presets unknowns
    else match unknowns with
      | [] => d.finish rpn options.presets
      | name :: _ => d.fail (.source (.unbound name))

/-- What a line says between the blanks around it. -/
def content (line : String) : String :=
  String.ofList ((line.toList.dropWhile Text.isBlank).rdropWhile Text.isBlank)

/-- The letters of the word that ends a dialogue, each small or capital. -/
def exitLetters : List (List Char) :=
  [['e', 'E'], ['x', 'X'], ['i', 'I'], ['t', 'T']]

/-- What a line does to a dialogue. -/
inductive Step where
  /-- The dialogue goes on. -/
  | next (d : Dialogue)
  /-- The dialogue ends. -/
  | stop (outcome : Except Fault Unit)

/-- Takes a line in the role that is due. A blank line and a line that says `exit` are something
special only where an expression is due. -/
def hear (d : Dialogue) (bytes : List UInt8) : Step :=
  match String.fromUTF8? ⟨bytes.toArray⟩ with
  | none => .stop (.error .invalidEncoding)
  | some line =>
    match d.role with
    | .answer rpn known name others =>
      match Number.parse? (content line) with
      | some value => .next (d.ask rpn (known.insert name value) others)
      | none => .next (d.fail (.source (.invalidValue name (content line))))
    | .expression =>
      if line.toList.all Text.isBlank then .next d
      else if List.Forall₂ (· ∈ ·) (content line).toList exitLetters then .stop (.ok ())
      else .next (d.start line)

/-- What there is when no lines are left: the value that is due, if any, is not to be had. -/
def close (d : Dialogue) : Dialogue :=
  match d.role with
  | .answer _ _ name _ => d.fail (.source (.endOfInput name))
  | .expression => d

/-- How a dialogue ends: its session and outcome, and the console with the lines that are left. -/
def ending (d : Dialogue) (outcome : Except Fault Unit) (lines : List (List UInt8)) :
    (Session × Except Fault Unit) × Console :=
  ((d.session, outcome), ⟨lines.flatten, d.written, none⟩)

/-- Takes lines up to the one that ends the dialogue, or to the last. -/
def run (d : Dialogue) : List (List UInt8) → (Session × Except Fault Unit) × Console
  | [] => d.close.ending (.ok ()) []
  | line :: lines =>
    match d.hear line with
    | .next d => d.run lines
    | .stop outcome => d.ending outcome lines

end Dialogue

namespace Console

/-- These are the lines of what they are together. -/
def AreLines (lines : List (List UInt8)) : Prop :=
  Text.linesOf isLineFeed lines.flatten = lines

/-- The lines of an input are lines. -/
theorem areLines_linesOf (bytes : List UInt8) : AreLines (Text.linesOf isLineFeed bytes) := by
  rw [AreLines, Text.flatten_linesOf]

/-- Reading takes the first line, and the lines behind it are left. -/
theorem readLine_lines {line : List UInt8} {lines : List (List UInt8)}
    (h : AreLines (line :: lines)) (written : List UInt8) (room : Option Nat) :
    readLine ⟨(line :: lines).flatten, written, room⟩ =
        ((decode? line).elim (.error .invalidEncoding) fun text => .ok (some text),
          ⟨lines.flatten, written, room⟩) ∧
      AreLines lines := by
  have hne : (line :: lines).flatten ≠ [] := by
    intro hnil
    rw [AreLines, hnil] at h
    cases h
  have hsplit := Text.linesOf_eq_cons isLineFeed hne
  rw [h, List.cons.injEq] at hsplit
  obtain ⟨hfirst, hrest⟩ := hsplit
  have hflatten : (Text.firstLine isLineFeed (line :: lines).flatten).2 = lines.flatten := by
    rw [← Text.flatten_linesOf isLineFeed (Text.firstLine isLineFeed (line :: lines).flatten).2,
      ← hrest]
  constructor
  · have hread : ((line :: lines).flatten.isEmpty) = false := by simpa using hne
    simp only [readLine, hread, Bool.false_eq_true, if_false, ← hfirst, hflatten]
    cases decode? line <;> rfl
  · rw [AreLines, ← hflatten, ← hrest]

end Console

/-- While the values of an expression are collected, `acc` has been taken from presets and answers
and `names` are still to come; `known` has the same values, and all other presets. -/
structure Expression.Collecting (x : Expression) (presets acc known : Bindings)
    (names : List String) : Prop where
  presets : ∀ name value, presets.get? name = some value → known.get? name = some value
  agree : ∀ name ∈ x.variableNames, name ∉ names → acc.get? name = known.get? name

namespace Expression.Collecting

variable {x : Expression} {presets acc known : Bindings} {name : String} {names : List String}

/-- At first there are the presets, and all variables are to come. -/
theorem start (x : Expression) (presets : Bindings) :
    x.Collecting presets .empty presets x.variableNames where
  presets _ _ hvalue := hvalue
  agree _ hmem hnot := absurd hmem hnot

/-- A value that is added to `acc`, and is in the other table by then, need not come any more. -/
theorem agree_insert (h : x.Collecting presets acc known (name :: names)) {known' : Bindings}
    {value : Float} (hvalue : known'.get? name = some value)
    (hothers : ∀ other, other ≠ name → known'.get? other = known.get? other) :
    ∀ other ∈ x.variableNames, other ∉ names →
      (acc.insert name value).get? other = known'.get? other := by
  intro other hmem hnot
  rw [Bindings.get?_insert]
  by_cases heq : other = name
  · rw [if_pos heq, heq, hvalue]
  · rw [if_neg heq, hothers other heq]
    exact h.agree other hmem (by simp [heq, hnot])

/-- The value of a variable is taken from the presets. -/
theorem preset (h : x.Collecting presets acc known (name :: names)) {value : Float}
    (hpreset : presets.get? name = some value) :
    x.Collecting presets (acc.insert name value) known names where
  presets := h.presets
  agree := h.agree_insert (h.presets name value hpreset) fun _ _ => rfl

/-- The value of a variable that has none in the presets is an answer. -/
theorem answer (h : x.Collecting presets acc known (name :: names))
    (hpreset : presets.get? name = none) (value : Float) :
    x.Collecting presets (acc.insert name value) (known.insert name value) names where
  presets other v hother := by
    have hne : other ≠ name := by
      rintro rfl
      rw [hpreset] at hother
      cases hother
    rw [Bindings.get?_insert, if_neg hne]
    exact h.presets other v hother
  agree := h.agree_insert (by simp) fun other hne => by simp [hne]

/-- At last the expression has the same value with both tables. -/
theorem value_eq {text : String} (hx : ofText text = .ok x)
    (h : x.Collecting presets acc known []) : x.value acc = x.value known :=
  value_congr hx fun name hname => h.agree name hname (by simp)

end Expression.Collecting

namespace Conversation

/-- Without a limit, everything is written. -/
theorem on_write_free (text : String) (unread written : List UInt8) :
    (Terminal.write text : Conversation _).on ⟨unread, written, none⟩ =
      (.ok (), ⟨unread, written ++ Console.encode text, none⟩) :=
  Console.write_of_room_none rfl text

/-- Reading takes the first line. -/
theorem on_readLine_lines {line : List UInt8} {lines : List (List UInt8)}
    (h : Console.AreLines (line :: lines)) (written : List UInt8) :
    (Terminal.readLine : Conversation _).on ⟨(line :: lines).flatten, written, none⟩ =
      ((Console.decode? line).elim (.error .invalidEncoding) fun text => .ok (some text),
        ⟨lines.flatten, written, none⟩) :=
  (Console.readLine_lines h written none).1

end Conversation

open Conversation

namespace ValueSource

/-- Nobody is asked for a variable that has a preset value. -/
theorem collect_of_preset {presets : Bindings} {name : String} {value : Float}
    (hpreset : presets.get? name = some value) (acc : Bindings) (names : List String) :
    (collect (.withPresets presets .prompting) acc (name :: names) : Conversation _) =
      collect (.withPresets presets .prompting) (acc.insert name value) names := by
  simp [collect, withPresets, hpreset, QuietJournal.note_eq]

/-- The prompt is written and the next line is the answer. -/
theorem on_prompting_lines {line : List UInt8} {lines : List (List UInt8)}
    (h : Console.AreLines (line :: lines)) (name : String) (written : List UInt8) :
    (prompting name : Conversation _).on ⟨(line :: lines).flatten, written, none⟩ =
      ((Console.decode? line).elim (.error (.fault .invalidEncoding)) (readAnswer name),
        ⟨lines.flatten, written ++ Console.encode (promptText name), none⟩) := by
  simp only [prompting, on_bind_apply, on_write_free, on_readLine_lines h]
  cases Console.decode? line with
  | none => rfl
  | some answer =>
    simp only [Option.elim_some, on_pure]
    rfl

/-- At the end of the input the prompt is written and no answer is to be had. -/
theorem on_prompting_nil (name : String) (written : List UInt8) :
    (prompting name : Conversation _).on ⟨[], written, none⟩ =
      (.error (.endOfInput name),
        ⟨[], written ++ Console.encode (promptText name), none⟩) := by
  simp only [prompting, on_bind_apply, on_write_free]
  rfl

end ValueSource

namespace Dialogue

/-- A capital letter becomes the small one, and nothing else changes. -/
theorem toNat_toLower (c : Char) :
    c.toLower.toNat = if 65 ≤ c.toNat ∧ c.toNat ≤ 90 then c.toNat + 32 else c.toNat := by
  by_cases h : 65 ≤ c.toNat ∧ c.toNat ≤ 90
  · have hcapital : c.val ≥ 'A'.val ∧ c.val ≤ 'Z'.val :=
      ⟨UInt32.le_iff_toNat_le.mpr h.1, UInt32.le_iff_toNat_le.mpr h.2⟩
    have hlower : c.toLower.val = c.val + 32 := congrArg Char.val (dif_pos hcapital)
    have hsum : (c.val + 32).toNat = (c.toNat + 32) % 2 ^ 32 := UInt32.toNat_add c.val 32
    rw [if_pos h, Char.toNat, hlower]
    omega
  · have hsame : c.toLower = c := by
      apply dif_neg
      rintro ⟨hlow, hhigh⟩
      exact h ⟨UInt32.le_iff_toNat_le.mp hlow, UInt32.le_iff_toNat_le.mp hhigh⟩
    rw [if_neg h, hsame]

/-- A character is a small letter or its capital if it becomes that small letter. -/
theorem mem_pair_iff_toLower {c small capital : Char}
    (hcapital : 65 ≤ capital.toNat ∧ capital.toNat ≤ 90)
    (hsmall : small.toNat = capital.toNat + 32) :
    c ∈ [small, capital] ↔ c.toLower = small := by
  rw [List.mem_pair, ← Char.toNat_inj, ← Char.toNat_inj, ← Char.toNat_inj, toNat_toLower]
  split <;> omega

/-- What ends the interactive loop is written with the letters that end a dialogue. -/
theorem isExit_iff (text : String) :
    Session.isExit text = true ↔ List.Forall₂ (· ∈ ·) text.toList exitLetters := by
  calc
    _ ↔ text.toList.map Char.toLower = ['e', 'x', 'i', 't'] := beq_iff_eq
    _ ↔ List.Forall₂ (fun c small => c.toLower = small) text.toList ['e', 'x', 'i', 't'] := by
      rw [← List.forall₂_map_left_iff, List.forall₂_eq_eq_eq]
    _ ↔ List.Forall₂ (· ∈ ·) text.toList exitLetters := by
      simp (disch := decide) only [exitLetters, List.forall₂_cons_right_iff,
        List.forall₂_nil_right_iff, mem_pair_iff_toLower]

/-- What a line says between the blanks around it is the trimmed line. -/
theorem content_eq (line : String) : content line = Text.trim line := rfl

/-- The trimmed line is taken as an expression as the line itself is. -/
theorem start_trim (d : Dialogue) (line : String) : d.start (Text.trim line) = d.start line := by
  rw [start, Token.scan_trim, start]

/-- A text whose brackets do not match is an error. -/
theorem start_of_error {text : String} {e : BracketError} (hx : Expression.ofText text = .error e)
    (s : Session) (written : List UInt8) :
    start ⟨s, written, .expression⟩ text =
      fail ⟨s.countEvaluated, written, .expression⟩ (.brackets e) := by
  obtain ⟨hbrackets, rfl⟩ := Expression.ofText_eq_error hx
  cases hrpn : Postfix.ofTokens (Token.scan text) with
  | error e =>
    simp only [start, hrpn]
    rfl
  | ok rpn =>
    rw [Postfix.balanced_of_ofTokens hrpn] at hbrackets
    cases hbrackets

/-- What follows when the values of an expression have been collected goes on as a dialogue does:
with values it writes the outcome of the expression, a refusal is an error of the expression, and
a fault ends it. At most `count` lines are left then. -/
structure Resumes (s : Session) (rpn : List Token) (count : Nat)
    (rest : Except SourceError Bindings → Conversation (Session × Except Fault Unit)) : Prop where
  values : ∀ known written lines, Console.AreLines lines → lines.length ≤ count →
    (rest (.ok known)).on ⟨lines.flatten, written, none⟩ =
      (finish ⟨s, written, .expression⟩ rpn known).run lines
  refusal : ∀ e written lines, Console.AreLines lines → lines.length ≤ count →
    (∀ fault, e ≠ .fault fault) →
      (rest (.error e)).on ⟨lines.flatten, written, none⟩ =
        (fail ⟨s, written, .expression⟩ (.source e)).run lines
  fault : ∀ fault written lines,
    (rest (.error (.fault fault))).on ⟨lines.flatten, written, none⟩ =
      ending ⟨s, written, .expression⟩ (.error fault) lines

/-- Fewer lines may be left. -/
theorem Resumes.mono {s : Session} {rpn : List Token} {count fewer : Nat}
    {rest : Except SourceError Bindings → Conversation (Session × Except Fault Unit)}
    (h : Resumes s rpn count rest) (hle : fewer ≤ count) : Resumes s rpn fewer rest where
  values known written lines hlines hlength :=
    h.values known written lines hlines (Nat.le_trans hlength hle)
  refusal e written lines hlines hlength :=
    h.refusal e written lines hlines (Nat.le_trans hlength hle)
  fault := h.fault

/-- An answer that is a line is no fault of the terminal. -/
theorem readAnswer_ne_fault {name line : String} {e : SourceError}
    (h : ValueSource.readAnswer name line = .error e) (fault : Fault) : e ≠ .fault fault := by
  simp only [ValueSource.readAnswer] at h
  split at h
  · cases h
  · cases h
    simp

/-- A line that is not encoded in UTF-8 ends a dialogue. -/
theorem hear_of_invalid {bytes : List UInt8} (hdecode : Console.decode? bytes = none)
    (d : Dialogue) : d.hear bytes = .stop (.error .invalidEncoding) := by
  rw [Console.decode?] at hdecode
  rw [hear, hdecode]

/-- A line that is read as an expression is trimmed, and is one for a dialogue if it is neither
empty then nor ends the interactive loop. -/
theorem hear_expression {bytes : List UInt8} {line : String}
    (hdecode : Console.decode? bytes = some line) (s : Session) (written : List UInt8) :
    let text := Text.trim line
    hear ⟨s, written, .expression⟩ bytes =
      if text.isEmpty then .next ⟨s, written, .expression⟩
      else if Session.isExit text then .stop (.ok ())
      else .next (start ⟨s, written, .expression⟩ text) := by
  rw [Console.decode?] at hdecode
  simp only [hear, hdecode, Text.isEmpty_trim, start_trim, content_eq]
  exact if_congr Iff.rfl rfl (if_congr (isExit_iff (Text.trim line)).symm rfl rfl)

/-- A line that is read as an answer is one for a dialogue. -/
theorem hear_answer {bytes : List UInt8} {line : String} (hdecode : Console.decode? bytes = some line)
    (s : Session) (written : List UInt8) (rpn : List Token) (known : Bindings) (name : String)
    (others : List String) :
    hear ⟨s, written, .answer rpn known name others⟩ bytes =
      match ValueSource.readAnswer name line with
      | .ok value => .next (ask ⟨s, written, .expression⟩ rpn (known.insert name value) others)
      | .error e => .next (fail ⟨s, written, .expression⟩ (.source e)) := by
  rw [Console.decode?] at hdecode
  simp only [hear, hdecode, content_eq, ValueSource.readAnswer]
  cases Number.parse? (Text.trim line) with
  | some value => cases others <;> rfl
  | none => rfl

/-- Collecting the values of variables from presets and prompts is a dialogue in which each
variable without a preset value is asked for once, in order. -/
theorem on_collect {text : String} {x : Expression} (hx : Expression.ofText text = .ok x)
    {s : Session} {presets : Bindings}
    {rest : Except SourceError Bindings → Conversation (Session × Except Fault Unit)}
    {names : List String} {acc known : Bindings} {lines : List (List UInt8)}
    {written : List UInt8} (hlines : Console.AreLines lines)
    (hrest : Resumes s x.rpn lines.length rest)
    (hcollecting : x.Collecting presets acc known names) :
    (ValueSource.collect (.withPresets presets .prompting) acc names >>= rest).on
        ⟨lines.flatten, written, none⟩ =
      (ask ⟨s, written, .expression⟩ x.rpn known
        (names.filter fun name => (presets.get? name).isNone)).run lines := by
  induction names generalizing acc known lines written with
  | nil =>
    have hvalue : StackMachine.evaluate acc x.rpn = StackMachine.evaluate known x.rpn :=
      hcollecting.value_eq hx
    have hdone := hrest.values acc written lines hlines (Nat.le_refl _)
    rw [finish, hvalue] at hdone
    exact hdone
  | cons name names ih =>
    cases hpreset : presets.get? name with
    | some value =>
      have hunknown : (name :: names).filter (fun name => (presets.get? name).isNone) =
          names.filter fun name => (presets.get? name).isNone := by simp [hpreset]
      rw [ValueSource.collect_of_preset hpreset, hunknown]
      exact ih hlines hrest (hcollecting.preset hpreset)
    | none =>
      have hunknown : (name :: names).filter (fun name => (presets.get? name).isNone) =
          name :: names.filter fun name => (presets.get? name).isNone := by simp [hpreset]
      simp only [ValueSource.collect, ValueSource.withPresets, hpreset, bind_assoc, hunknown]
      rw [on_bind_apply]
      cases lines with
      | nil =>
        rw [List.flatten_nil, ValueSource.on_prompting_nil]
        exact hrest.refusal _ _ [] hlines (Nat.le_refl _) (by simp)
      | cons line lines =>
        rw [ValueSource.on_prompting_lines hlines]
        obtain ⟨-, hbehind⟩ := Console.readLine_lines hlines [] none
        have hfewer := hrest.mono (Nat.le_succ lines.length)
        cases hdecode : Console.decode? line with
        | none =>
          rw [ask, run, hear_of_invalid hdecode]
          exact hrest.fault _ _ lines
        | some answer =>
          rw [ask, run, hear_answer hdecode, Option.elim_some]
          cases hanswer : ValueSource.readAnswer name answer with
          | error e =>
            exact hfewer.refusal _ _ lines hbehind (Nat.le_refl _) (readAnswer_ne_fault hanswer)
          | ok value => exact ih hbehind hfewer (hcollecting.answer hpreset value)

/-- What follows a line that was taken as an expression goes on as a dialogue does, or reports the
fault that ended it. At most `count` lines are left then. -/
structure Follows (count : Nat)
    (rest : Session × Except Fault (Option Float) → Conversation (Session × Except Fault Unit)) :
    Prop where
  next : ∀ s value written lines, Console.AreLines lines → lines.length ≤ count →
    (rest (s, .ok value)).on ⟨lines.flatten, written, none⟩ =
      run ⟨s, written, .expression⟩ lines
  fault : ∀ s fault written lines,
    (rest (s, .error fault)).on ⟨lines.flatten, written, none⟩ =
      ending ⟨s, written, .expression⟩ (.error fault) lines

/-- Fewer lines may be left. -/
theorem Follows.mono {count fewer : Nat}
    {rest : Session × Except Fault (Option Float) → Conversation (Session × Except Fault Unit)}
    (h : Follows count rest) (hle : fewer ≤ count) : Follows fewer rest where
  next s value written lines hlines hlength :=
    h.next s value written lines hlines (Nat.le_trans hlength hle)
  fault := h.fault

section Follows

variable {text : String} {x : Expression} {s : Session} {lines : List (List UInt8)}
  {written : List UInt8}
  {rest : Session × Except Fault (Option Float) → Conversation (Session × Except Fault Unit)}

/-- An error is counted and written, and the next line is an expression. -/
theorem on_writeError (hlines : Console.AreLines lines) (hrest : Follows lines.length rest)
    (e : Error) :
    (s.writeError text e >>= rest).on ⟨lines.flatten, written, none⟩ =
      (fail ⟨s, written, .expression⟩ e).run lines := by
  simp only [Session.writeError, QuietJournal.note_eq, pure_bind, bind_assoc]
  rw [on_bind_apply, on_write_free]
  exact hrest.next _ _ _ lines hlines (Nat.le_refl _)

/-- A value is written, or an error as before, and the next line is an expression. -/
theorem on_writeOutcome (hlines : Console.AreLines lines) (hrest : Follows lines.length rest)
    (known : Bindings) :
    (s.writeOutcome text ((x.value known).mapError .evaluation) >>= rest).on
        ⟨lines.flatten, written, none⟩ =
      (finish ⟨s, written, .expression⟩ x.rpn known).run lines := by
  rw [Expression.value]
  cases hvalue : StackMachine.evaluate known x.rpn with
  | ok value =>
    have hmap : (Except.ok value).mapError Error.evaluation = .ok value := rfl
    simp only [finish, hvalue, hmap, Session.writeOutcome, bind_assoc, pure_bind]
    rw [on_bind_apply, on_write_free]
    exact hrest.next _ _ _ lines hlines (Nat.le_refl _)
  | error e =>
    have hmap : (.error e : Except EvalError Float).mapError Error.evaluation =
      .error (.evaluation e) := rfl
    simp only [finish, hvalue, hmap, Session.writeOutcome]
    exact on_writeError hlines hrest _

/-- A refusal is counted and written as an error, unless it is a fault. -/
theorem writeOutcome_refusal {e : SourceError} (h : ∀ fault, e ≠ .fault fault) :
    (s.writeOutcome text (.error (.source e)) : Conversation _) =
      s.writeError text (.source e) := by
  cases e with
  | fault fault => exact absurd rfl (h fault)
  | _ => rfl

/-- Behind the values of an expression its outcome is written. -/
theorem Follows.resumes (text : String) {count : Nat} (hrest : Follows count rest) :
    Resumes s x.rpn count fun answer =>
    (match answer with
      | .error e => pure (.error (.source e))
      | .ok known => pure ((x.value known).mapError .evaluation)) >>=
        fun outcome => s.writeOutcome text outcome >>= rest where
  values known written lines hlines hlength :=
    on_writeOutcome hlines (hrest.mono hlength) known
  refusal e written lines hlines hlength hnot := by
    simp only [pure_bind, writeOutcome_refusal hnot]
    exact on_writeError hlines (hrest.mono hlength) (.source e)
  fault fault written lines := hrest.fault s fault written lines

/-- Behind the postfix order, if it is shown, the values of the variables come from the presets
and the prompts, or from the presets alone. -/
theorem on_evaluateFrom (hx : Expression.ofText text = .ok x) (hlines : Console.AreLines lines)
    (hrest : Follows lines.length rest) :
    (x.evaluateFrom s.source >>= fun outcome => s.writeOutcome text outcome >>= rest).on
        ⟨lines.flatten, written, none⟩ =
      (if s.options.prompt then
          ask ⟨s, written, .expression⟩ x.rpn s.options.presets
            (Token.unknowns s.options.presets x.tokens)
        else match Token.unknowns s.options.presets x.tokens with
          | [] => finish ⟨s, written, .expression⟩ x.rpn s.options.presets
          | name :: _ => fail ⟨s, written, .expression⟩ (.source (.unbound name))).run lines := by
  have hgo : Resumes s x.rpn lines.length _ := hrest.resumes text
  simp only [Expression.evaluateFrom_eq, bind_assoc]
  cases hprompt : s.options.prompt with
  | true =>
    have hsource : (s.source : ValueSource Conversation) =
        .withPresets s.options.presets .prompting := by simp [Session.source, hprompt]
    rw [hsource]
    exact on_collect hx hlines hgo (.start x s.options.presets)
  | false =>
    have hsource : (s.source : ValueSource Conversation) = .ofBindings s.options.presets := by
      simp [Session.source, hprompt]
    rw [hsource]
    cases hunknown : Token.unknowns s.options.presets x.tokens with
    | nil =>
      have hbound : ∀ name ∈ x.variableNames, (s.options.presets.get? name).isSome := by
        intro name hname
        have hnot := List.filter_eq_nil_iff.mp hunknown name hname
        rwa [Option.isNone_iff_eq_none, ← ne_eq, Option.ne_none_iff_isSome] at hnot
      obtain ⟨known, hcollect, hknown⟩ :=
        ValueSource.collect_of_bound (m := Conversation) .empty hbound
      have hvalue : StackMachine.evaluate known x.rpn =
          StackMachine.evaluate s.options.presets x.rpn :=
        Expression.value_congr hx fun name hname => by rw [hknown, if_pos hname]
      rw [hcollect, pure_bind]
      have hdone := hgo.values known written lines hlines (Nat.le_refl _)
      rw [finish, hvalue] at hdone
      exact hdone
    | cons name others =>
      have hnames : (x.variableNames.filter fun name => (s.options.presets.get? name).isNone) =
          name :: others := hunknown
      rw [ValueSource.collect_of_unknown .empty hnames, pure_bind]
      exact hgo.refusal _ written lines hlines (Nat.le_refl _) (by simp)

/-- A line that is taken as an expression starts a dialogue. -/
theorem on_respond (hlines : Console.AreLines lines) (hrest : Follows lines.length rest) :
    (s.respond text >>= rest).on ⟨lines.flatten, written, none⟩ =
      (start ⟨s, written, .expression⟩ text).run lines := by
  simp only [Session.respond, Noted.read_eq, pure_bind]
  cases hx : Expression.ofText text with
  | error e =>
    rw [start_of_error hx]
    exact on_writeError hlines hrest _
  | ok x =>
    obtain ⟨htokens, hrpn⟩ := Expression.ofText_eq_ok_iff.mp hx
    have hoptions : s.countEvaluated.options = s.options := rfl
    rw [← htokens] at hrpn
    simp only [start, ← htokens, hrpn, Session.writeRpn, hoptions]
    split
    · rw [bind_assoc, on_bind_apply, on_write_free]
      simp only [bind_assoc]
      exact on_evaluateFrom hx hlines hrest
    · simp only [pure_bind, bind_assoc]
      exact on_evaluateFrom hx hlines hrest

end Follows

/-- More turns than lines carry a dialogue to its end. -/
theorem on_turns {n : Nat} {s : Session} {lines : List (List UInt8)} {written : List UInt8}
    (hlines : Console.AreLines lines) (hcount : lines.length < n) :
    (Session.turns n s : Conversation _).on ⟨lines.flatten, written, none⟩ =
      run ⟨s, written, .expression⟩ lines := by
  induction n generalizing s lines written with
  | zero => exact absurd hcount (Nat.not_lt_zero _)
  | succ n ih =>
    simp only [Session.turns, Session.turn, bind_assoc]
    rw [on_bind_apply]
    cases lines with
    | nil => rfl
    | cons line lines =>
      obtain ⟨-, hbehind⟩ := Console.readLine_lines hlines [] none
      have hfewer : lines.length < n := Nat.lt_of_succ_lt_succ hcount
      rw [on_readLine_lines hlines]
      cases hdecode : Console.decode? line with
      | none =>
        rw [run, hear_of_invalid hdecode]
        rfl
      | some text =>
        simp only [run, hear_expression hdecode, Option.elim_some]
        split
        · exact ih hbehind hfewer
        · split
          · rfl
          · simp only [bind_assoc]
            refine on_respond hbehind ⟨?_, ?_⟩
            · intro t value written' lines' hlines' hlength
              exact ih hlines' (Nat.lt_of_le_of_lt hlength hfewer)
            · intro t fault written' lines'
              rfl

/-- The lines that are left are those behind the ones that were taken. -/
theorem run_unread {lines : List (List UInt8)} (hlines : Console.AreLines lines) (d : Dialogue) :
    ∃ taken, lines = taken ++ Text.linesOf Console.isLineFeed (d.run lines).2.unread := by
  induction lines generalizing d with
  | nil => exact ⟨[], rfl⟩
  | cons line lines ih =>
    obtain ⟨-, hbehind⟩ := Console.readLine_lines hlines [] none
    rw [run]
    cases d.hear line with
    | next d =>
      obtain ⟨taken, htaken⟩ := ih hbehind d
      exact ⟨line :: taken, congrArg (List.cons line) htaken⟩
    | stop outcome => exact ⟨[line], congrArg (List.cons line) hbehind.symm⟩

end Dialogue

namespace Session

/-- The interactive loop comes to an end: turn by turn, up to one that stops it. -/
inductive Ends : Session → Console → (Session × Except Fault Unit) × Console → Prop where
  /-- The first turn stops the loop. -/
  | stop {s t : Session} {c after : Console} {outcome : Except Fault Unit}
    (first : Id.run ((s.turn : StateT Console Id Turn).run c) = (.stop t outcome, after)) :
    Ends s c ((t, outcome), after)
  /-- Behind the first turn the loop goes on and comes to an end. -/
  | next {s t : Session} {c after : Console} {result : (Session × Except Fault Unit) × Console}
    (first : Id.run ((s.turn : StateT Console Id Turn).run c) = (.next t, after))
    (later : Ends t after result) : Ends s c result

/-- More turns than lines carry the loop to its end. -/
theorem ends_turns {n : Nat} {s : Session} {c : Console} (h : c.lineCount < n) :
    Ends s c (Id.run ((turns n s : StateT Console Id _).run c)) := by
  induction n generalizing s c with
  | zero => exact absurd h (Nat.not_lt_zero _)
  | succ n ih =>
    cases hturn : Id.run ((s.turn : StateT Console Id Turn).run c) with
    | mk next after =>
      rw [turns, StateT.run_bind, Id.run_bind, hturn]
      cases next with
      | next t =>
        have hon : (s.turn : Conversation Turn).on c = (.next t, after) := by
          rw [on_turn]
          exact hturn
        have hline := lineCount_of_turn hon
        exact .next hturn (ih (by omega))
      | stop t outcome => exact .stop hturn

end Session

/-- The interactive loop comes to an end, and up to there it is the dialogue over the lines of its
input: what it counts and writes, how it ends, and which lines it leaves. -/
theorem interact_eq_dialogue (s : Session) (input written : List UInt8) :
    let lines := Text.linesOf (fun byte => byte == 10) input
    let result := Dialogue.run ⟨s, written, .expression⟩ lines
    Session.Ends s ⟨input, written, none⟩ result ∧
      Id.run ((s.interact : StateT Console Id _).run ⟨input, written, none⟩) = result ∧
      ∃ taken, lines = taken ++ Text.linesOf (fun byte => byte == 10) result.2.unread := by
  intro lines result
  have hlines : Console.AreLines lines := Console.areLines_linesOf input
  have hflatten : lines.flatten = input := Text.flatten_linesOf Console.isLineFeed input
  have hresult : Id.run ((s.interact : StateT Console Id _).run ⟨input, written, none⟩) =
      result := by
    have hon : (s.loop ⟨input, written, none⟩).on ⟨lines.flatten, written, none⟩ = result :=
      Dialogue.on_turns hlines (Nat.lt_succ_self _)
    rw [hflatten, Session.on_loop] at hon
    exact hon
  refine ⟨?_, hresult, Dialogue.run_unread hlines _⟩
  rw [← hresult]
  exact Session.ends_turns (Nat.lt_succ_self _)

/-- A loop in which an answer has blanks around it, another says `exit`, brackets do not match, and
a line says `exit` in front of one more; a loop that ends with an answer that is not encoded in
UTF-8; and one with a blank answer in which the input ends behind a prompt. -/
theorem interact_of_mixed_lines :
    let run := fun (s : Session) (input : List UInt8) =>
      let result := Id.run ((s.interact : StateT Console Id _).run ⟨input, [], none⟩)
      (result.1.1.summary, result.1.2, result.2)
    run ⟨{ presets := .ofList [("y", 2.0)], showRpn := true }, ⟨3, 1⟩⟩
        (["x + y * z\n", "\u00a03 \r\n", "exit\n", " \t\n", "(1\n", "x - x / 2\n", " -1.5e1\n",
          " eXiT \n", "1 + 1\n"].flatMap Console.encode) =
      (⟨6, 3⟩, .ok (), ⟨Console.encode "1 + 1\n", ["postfix: x y z * +\n",
        "Enter the value of 'x': ", "Enter the value of 'z': ",
        "Error: invalid value 'exit' for variable 'z'\n", "Error: unbalanced brackets\n",
        "postfix: x x 2 / -\n", "Enter the value of 'x': ", "=> -7.5\n"].flatMap Console.encode,
        none⟩) ∧
    run {} (Console.encode "a\n" ++ [0xff, 10] ++ Console.encode "1\n") =
      (⟨1, 0⟩, .error .invalidEncoding,
        ⟨Console.encode "1\n", Console.encode "Enter the value of 'a': ", none⟩) ∧
    run {} (Console.encode "b\n \nc") =
      (⟨2, 2⟩, .ok (), ⟨[], ["Enter the value of 'b': ",
        "Error: invalid value '' for variable 'b'\n", "Enter the value of 'c': ",
        "Error: input ended before a value for 'c' was given\n"].flatMap Console.encode, none⟩) := by
  intro run
  have hrun : ∀ s input, run s input =
      let result := Dialogue.run ⟨s, [], .expression⟩ (Text.linesOf (fun byte => byte == 10) input)
      (result.1.1.summary, result.1.2, result.2) := by
    intro s input
    exact congrArg (fun result => (result.1.1.summary, result.1.2, result.2))
      (interact_eq_dialogue s input []).2.1
  refine ⟨(hrun _ _).trans ?_, (hrun _ _).trans ?_, (hrun _ _).trans ?_⟩
  · decide +kernel
  · decide +kernel
  · decide +kernel

end Calculator
