import Calculator.Proofs.Counts
import Calculator.Proofs.LineFeeds

/-!
# Traces

What a computation does on a console is recorded as a trace: what it writes, what it notes, and
whether it meets the end of the input. With room for everything, neither the output so far nor, as
long as the end of the input is not met, the input behind the lines that are read makes a
difference. The rules here take this from the parts of a computation to the whole.
-/

namespace Calculator

/-- What an event says about the course of a session. -/
inductive Remark where
  /-- An expression was begun. -/
  | begun (text : String)
  /-- An expression has come to a value, or its error was reported. -/
  | settled (outcome : Except Error Float)
  /-- The interactive loop was left by an exit line. -/
  | left

/-- What an event says, if it is one of these. -/
def Remark.ofEvent? : Event → Option Remark
  | .scanned source _ => some (.begun source)
  | .evaluated value => some (.settled (.ok value))
  | .lineFailed _ e => some (.settled (.error e))
  | .exitRequested => some .left
  | _ => none

/-- What a computation leaves behind: its output, its notes, and whether it met the end of the
input. -/
structure Trace (ν : Type) where
  output : List UInt8 := []
  notes : List ν := []
  ended : Bool := false

namespace Trace

variable {ν : Type}

/-- The traces of two parts in a row. -/
instance : Append (Trace ν) :=
  ⟨fun t u => ⟨t.output ++ u.output, t.notes ++ u.notes, t.ended || u.ended⟩⟩

variable (t u : Trace ν)

theorem append_def : t ++ u = ⟨t.output ++ u.output, t.notes ++ u.notes, t.ended || u.ended⟩ := rfl

@[simp]
theorem empty_append : ({} : Trace ν) ++ u = u := by
  simp [append_def]

@[simp]
theorem append_empty : t ++ {} = t := by
  simp [append_def]

/-- A trace with the remarks among its events only. -/
def remarks (t : Trace Event) : Trace Remark :=
  ⟨t.output, t.notes.filterMap Remark.ofEvent?, t.ended⟩

theorem remarks_append (t u : Trace Event) : (t ++ u).remarks = t.remarks ++ u.remarks := by
  simp [remarks, append_def]

end Trace

theorem Recorded.bind_mk {α β : Type} (a : α) (events : List Event) (f : α → Recorded β) :
    (⟨a, events⟩ : Recorded α) >>= f = ⟨(f a).value, events ++ (f a).events⟩ := rfl

namespace Console

/-- Bytes that are whole lines: there are none, or the last is a line feed. -/
def WholeLines (bytes : List UInt8) : Prop :=
  ∀ byte ∈ bytes.getLast?, isLineFeed byte = true

instance (bytes : List UInt8) : Decidable (WholeLines bytes) :=
  inferInstanceAs (Decidable (∀ byte ∈ bytes.getLast?, isLineFeed byte = true))

theorem WholeLines.suffix {bytes rest : List UInt8} (h : WholeLines bytes)
    (hsuffix : rest <:+ bytes) : WholeLines rest := by
  obtain ⟨front, rfl⟩ := hsuffix
  intro byte hbyte
  exact h byte (by simp [List.getLast?_append, Option.mem_def.mp hbyte])

/-- The first of whole lines is the same with anything behind them. -/
theorem firstLine_append_of_wholeLines {bytes : List UInt8} (hne : bytes ≠ [])
    (h : WholeLines bytes) (more : List UInt8) :
    Text.firstLine isLineFeed (bytes ++ more) =
      ((Text.firstLine isLineFeed bytes).1, (Text.firstLine isLineFeed bytes).2 ++ more) := by
  induction bytes with
  | nil => exact absurd rfl hne
  | cons byte bytes ih =>
    rw [List.cons_append]
    cases hbyte : isLineFeed byte with
    | true => rw [Text.firstLine_cons_end hbyte, Text.firstLine_cons_end hbyte]
    | false =>
      rw [Text.firstLine_cons_body hbyte, Text.firstLine_cons_body hbyte]
      have hrest : bytes ≠ [] := by
        rintro rfl
        exact absurd (h byte rfl) (by simp [hbyte])
      rw [ih hrest (h.suffix (List.suffix_cons byte bytes))]

/-- What reading makes of the bytes of a line. -/
def answerOf (line : List UInt8) : Except Fault (Option String) :=
  (decode? line).elim (.error .invalidEncoding) fun text => .ok (some text)

/-- Before the end of the input the first line is read. -/
theorem readLine_of_ne_nil {unread : List UInt8} (hne : unread ≠ []) (written : List UInt8)
    (room : Option Nat) :
    readLine ⟨unread, written, room⟩ =
      (answerOf (Text.firstLine isLineFeed unread).1,
        ⟨(Text.firstLine isLineFeed unread).2, written, room⟩) := by
  have hlines := areLines_linesOf unread
  rw [Text.linesOf_eq_cons isLineFeed hne] at hlines
  have hread := (readLine_lines hlines written room).1
  rw [List.flatten_cons, Text.flatten_linesOf, Text.firstLine_append] at hread
  exact hread

end Console

open Console (WholeLines)

variable {α β : Type}

/-- With `unread` to read and room for everything, a computation comes to `a` with the trace `t`,
and `left` is left to read. If the input is whole lines and its end is not met, anything may stand
behind it. -/
structure Passage (x : StateT Console Recorded α) (unread : List UInt8) (a : α) (t : Trace Event)
    (left : List UInt8) : Prop where
  run : ∀ written,
    x.run ⟨unread, written, none⟩ = ⟨(a, ⟨left, written ++ t.output, none⟩), t.notes⟩
  suffix : left <:+ unread
  onward : WholeLines unread → t.ended = false → ∀ more written,
    x.run ⟨unread ++ more, written, none⟩ =
      ⟨(a, ⟨left ++ more, written ++ t.output, none⟩), t.notes⟩

/-- One part of a computation goes on where the part before it has ended. -/
theorem Passage.bind {x : StateT Console Recorded α} {f : α → StateT Console Recorded β}
    {unread middle left : List UInt8} {a : α} {b : β} {t u : Trace Event}
    (hx : Passage x unread a t middle) (hf : Passage (f a) middle b u left) :
    Passage (x >>= f) unread b (t ++ u) left where
  run written := by
    rw [StateT.run_bind, hx.run, Recorded.bind_mk, hf.run, List.append_assoc]
    rfl
  suffix := hf.suffix.trans hx.suffix
  onward hwhole hended more written := by
    obtain ⟨hbefore, hbehind⟩ := Bool.or_eq_false_iff.mp hended
    rw [StateT.run_bind, hx.onward hwhole hbefore, Recorded.bind_mk,
      hf.onward (hwhole.suffix hx.suffix) hbehind, List.append_assoc]
    rfl

/-- On every input, what a computation comes to and what it remarks are as `P` says. -/
def Tracing (x : StateT Console Recorded α) (P : α → Trace Remark → Prop) : Prop :=
  ∀ unread, ∃ a t left, Passage x unread a t left ∧ P a t.remarks

section Rules

variable {P : α → Trace Remark → Prop} {Q : β → Trace Remark → Prop}
  {x : StateT Console Recorded α} {f : α → StateT Console Recorded β}

theorem Tracing.bind (hx : Tracing x P)
    (hf : ∀ a t, P a t → Tracing (f a) fun b u => Q b (t ++ u)) : Tracing (x >>= f) Q := by
  intro unread
  obtain ⟨a, t, middle, hpassage, hP⟩ := hx unread
  obtain ⟨b, u, left, hbehind, hQ⟩ := hf a _ hP middle
  refine ⟨b, t ++ u, left, hpassage.bind hbehind, ?_⟩
  rwa [Trace.remarks_append]

/-- Of a part that leaves nothing behind only the result matters. -/
theorem Tracing.bind_silent (hx : Tracing x fun _ t => t = {}) (hf : ∀ a, Tracing (f a) Q) :
    Tracing (x >>= f) Q := by
  refine hx.bind ?_
  rintro a _ rfl
  simpa only [Trace.empty_append] using hf a

theorem Tracing.mono {P' : α → Trace Remark → Prop} (hx : Tracing x P)
    (h : ∀ a t, P a t → P' a t) : Tracing x P' := by
  intro unread
  obtain ⟨a, t, left, hpassage, hP⟩ := hx unread
  exact ⟨a, t, left, hpassage, h _ _ hP⟩

theorem tracing_pure {a : α} (h : P a {}) : Tracing (pure a) P := by
  refine fun unread => ⟨a, {}, unread, ⟨fun written => ?_, List.suffix_refl _, ?_⟩, h⟩
  · rw [List.append_nil]
    rfl
  · intro _ _ more written
    rw [List.append_nil]
    rfl

end Rules

theorem tracing_note (event : Event) :
    Tracing (Journal.note event) fun _ t => t = { notes := (Remark.ofEvent? event).toList } := by
  refine fun unread =>
    ⟨(), { notes := [event] }, unread, ⟨fun written => ?_, List.suffix_refl _, ?_⟩, ?_⟩
  · rw [List.append_nil]
    rfl
  · intro _ _ more written
    rw [List.append_nil]
    rfl
  · cases hremark : Remark.ofEvent? event <;> simp [Trace.remarks, hremark]

theorem tracing_write (text : String) :
    Tracing (Terminal.write text) fun answer t =>
      answer = .ok () ∧ t = { output := Console.encode text } := by
  have hwrite : ∀ unread written,
      (Terminal.write text : StateT Console Recorded _).run ⟨unread, written, none⟩ =
        ⟨(.ok (), ⟨unread, written ++ Console.encode text, none⟩), []⟩ := by
    intro unread written
    exact congrArg (Recorded.mk · [])
      (Console.write_of_room_none (c := ⟨unread, written, none⟩) rfl text)
  exact fun unread => ⟨.ok (), { output := Console.encode text }, unread,
    ⟨hwrite unread, List.suffix_refl _, fun _ _ more => hwrite (unread ++ more)⟩, rfl, rfl⟩

/-- What can be read: a line, which is trimmed to a text without a line feed, or one that is no
text, or the end of the input. -/
inductive Heard : Except Fault (Option String) → Trace Remark → Prop where
  | line {text : String} (h : Text.Unbroken (Text.trim text)) : Heard (.ok (some text)) {}
  | garbled : Heard (.error .invalidEncoding) {}
  | ended : Heard (.ok none) { ended := true }

/-- The first line of an input is heard. -/
theorem heard_answerOf (bytes : List UInt8) :
    Heard (Console.answerOf (Text.firstLine Console.isLineFeed bytes).1) {} := by
  unfold Console.answerOf
  cases hdecode : Console.decode? (Text.firstLine Console.isLineFeed bytes).1 with
  | none => exact .garbled
  | some text => exact .line (Console.unbroken_trim_of_decode? hdecode)

/-- Before the end of the input the first line is read. -/
theorem passage_readLine {unread : List UInt8} (hne : unread ≠ []) :
    Passage Terminal.readLine unread
      (Console.answerOf (Text.firstLine Console.isLineFeed unread).1) {}
      (Text.firstLine Console.isLineFeed unread).2 where
  run written := by
    rw [List.append_nil]
    exact congrArg (Recorded.mk · []) (Console.readLine_of_ne_nil hne written none)
  suffix := ⟨_, Text.firstLine_append Console.isLineFeed unread⟩
  onward hwhole _ more written := by
    have hread :=
      Console.readLine_of_ne_nil (List.append_ne_nil_of_left_ne_nil hne more) written none
    rw [Console.firstLine_append_of_wholeLines hne hwhole] at hread
    rw [List.append_nil]
    exact congrArg (Recorded.mk · []) hread

theorem tracing_readLine : Tracing Terminal.readLine Heard := by
  intro unread
  by_cases hne : unread = []
  · subst hne
    refine ⟨.ok none, { ended := true }, [], ⟨fun written => ?_, List.suffix_refl _, ?_⟩, .ended⟩
    · rw [List.append_nil]
      rfl
    · rintro _ ⟨⟩
  · exact ⟨_, _, _, passage_readLine hne, heard_answerOf unread⟩

/-- A loop leaves nothing behind if its steps do not. -/
theorem tracing_forIn {xs : List α} {b : β} {f : α → β → StateT Console Recorded (ForInStep β)}
    (h : ∀ x b, Tracing (f x b) fun _ t => t = {}) : Tracing (forIn xs b f) fun _ t => t = {} := by
  induction xs generalizing b with
  | nil => exact tracing_pure rfl
  | cons x xs ih =>
    rw [List.forIn_cons]
    refine (h x b).bind_silent ?_
    rintro (b | b)
    · exact tracing_pure rfl
    · exact ih

end Calculator
