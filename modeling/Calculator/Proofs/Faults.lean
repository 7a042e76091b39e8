import Calculator.Proofs.Conversation

/-!
# Faults in a conversation

A conversation heeds the faults of its terminal if the first one ends it and is what its result
reports. On a console with little room such a conversation is cut off: it does the same as on a
console without a limit, up to the byte for which there is no room.
-/

namespace Calculator

/-- No more was counted at one time than at another. -/
structure Session.Summary.NoMore (c d : Session.Summary) : Prop where
  evaluated : c.evaluated ≤ d.evaluated
  failed : c.failed ≤ d.failed

theorem Session.Summary.NoMore.refl (c : Session.Summary) : c.NoMore c :=
  ⟨Nat.le_refl _, Nat.le_refl _⟩

theorem Session.Summary.NoMore.trans {c d e : Session.Summary} (h : c.NoMore d)
    (h' : d.NoMore e) : c.NoMore e :=
  ⟨Nat.le_trans h.evaluated h'.evaluated, Nat.le_trans h.failed h'.failed⟩

/-- The fault of the terminal that is behind a refusal, if there is one. -/
def SourceError.fault? : SourceError → Option Fault
  | fault f => some f
  | _ => none

/-- The fault of the terminal that is behind an error, if there is one. -/
def Error.fault? : Error → Option Fault
  | source e => e.fault?
  | _ => none

/-- A fault is behind an error in one way only. -/
theorem Error.fault?_eq_some_iff {e : Error} {f : Fault} :
    e.fault? = some f ↔ e = .source (.fault f) := by
  cases e with
  | source e => cases e <;> simp [fault?, SourceError.fault?]
  | _ => simp [fault?]

/-- Results that can report a fault of the terminal, and what has been counted. -/
class Reporting (α : Type) where
  /-- The fault that a result reports, if there was one. -/
  fault? : α → Option Fault
  /-- What has been counted: nothing but by a session. -/
  counted : α → Session.Summary := fun _ => {}

section Reports

variable {α : Type}

instance : Reporting (Except Fault α) where
  fault?
    | .ok _ => none
    | .error f => some f

instance : Reporting (Except SourceError α) where
  fault?
    | .ok _ => none
    | .error e => e.fault?

instance : Reporting (Except Error α) where
  fault?
    | .ok _ => none
    | .error e => e.fault?

instance : Reporting (Session × Except Fault α) where
  fault? result := Reporting.fault? result.2
  counted result := result.1.summary

instance : Reporting Session.Turn where
  fault?
    | .next _ => none
    | .stop _ outcome => Reporting.fault? outcome
  counted
    | .next s => s.summary
    | .stop s _ => s.summary

end Reports

open Reporting (fault? counted)

namespace Conversation

variable {α β : Type} [Reporting α] [Reporting β]

/-- At all ends of a conversation at least this much has been counted. -/
def AtLeast (least : Session.Summary) : Conversation α → Prop
  | done a => least.NoMore (counted a)
  | read next => ∀ answer, (next answer).AtLeast least
  | write _ next => ∀ outcome, (next outcome).AtLeast least

/-- The first fault ends a conversation, and the result reports this fault and no other. If
nothing could be written, no more has been counted than there would be otherwise. -/
def HeedsFaults : Conversation α → Prop
  | done a => fault? a = none
  | read next => (∀ line, (next (.ok line)).HeedsFaults) ∧
      ∀ fault, ∃ a, next (.error fault) = done a ∧ fault? a = some fault
  | write _ next => (next (.ok ())).HeedsFaults ∧
      ∀ fault, ∃ a, next (.error fault) = done a ∧ fault? a = some fault ∧
        (next (.ok ())).AtLeast (counted a)

theorem AtLeast.mono {least fewer : Session.Summary} {t : Conversation α} (h : t.AtLeast least)
    (hfewer : fewer.NoMore least) : t.AtLeast fewer := by
  induction t with
  | done a => exact hfewer.trans h
  | read next ih => exact fun answer => ih answer (h answer)
  | write text next ih => exact fun outcome => ih outcome (h outcome)

/-- Nothing is the least that can be counted. -/
theorem atLeast_nothing (t : Conversation α) : t.AtLeast {} := by
  induction t with
  | done a => exact ⟨Nat.zero_le _, Nat.zero_le _⟩
  | read next ih => exact ih
  | write text next ih => exact ih

/-- What follows counts on from what has been counted before. -/
theorem AtLeast.bind {least least' : Session.Summary} {t : Conversation α}
    {f : α → Conversation β} (ht : t.AtLeast least)
    (hf : ∀ a, least.NoMore (counted a) → (f a).AtLeast least') : (t >>= f).AtLeast least' := by
  induction t with
  | done a => exact hf a ht
  | read next ih => exact fun answer => ih answer (ht answer)
  | write text next ih => exact fun outcome => ih outcome (ht outcome)

/-- A conversation that goes on only if no fault is reported, and hands on the fault otherwise,
heeds faults. -/
theorem HeedsFaults.bind {t : Conversation α} {f : α → Conversation β} (ht : t.HeedsFaults)
    (hf : ∀ a, fault? a = none → (f a).HeedsFaults)
    (hfault : ∀ fault a, fault? a = some fault → ∃ b, f a = done b ∧ fault? b = some fault ∧
      ∀ whole, (counted a).NoMore (counted whole) → (f whole).AtLeast (counted b)) :
    (t >>= f).HeedsFaults := by
  induction t with
  | done a => exact hf a ht
  | read next ih =>
    obtain ⟨hnext, hfail⟩ := ht
    refine ⟨fun line => ih (.ok line) (hnext line), ?_⟩
    intro fault
    obtain ⟨a, hdone, ha⟩ := hfail fault
    obtain ⟨b, hb, hreport, -⟩ := hfault fault a ha
    refine ⟨b, ?_, hreport⟩
    show (next (.error fault)).bind f = done b
    rw [hdone]
    exact hb
  | write text next ih =>
    obtain ⟨hnext, hfail⟩ := ht
    refine ⟨ih (.ok ()) hnext, ?_⟩
    intro fault
    obtain ⟨a, hdone, ha, hleast⟩ := hfail fault
    obtain ⟨b, hb, hreport, hwhole⟩ := hfault fault a ha
    refine ⟨b, ?_, hreport, hleast.bind hwhole⟩
    show (next (.error fault)).bind f = done b
    rw [hdone]
    exact hb

/-- If what follows counts on from each result, it counts on from what has been counted before. -/
theorem AtLeast.bind_counting {least : Session.Summary} {t : Conversation α}
    {f : α → Conversation β} (ht : t.AtLeast least) (hf : ∀ a, (f a).AtLeast (counted a)) :
    (t >>= f).AtLeast least :=
  ht.bind fun a ha => (hf a).mono ha

/-- As before, where what follows counts on from each result. -/
theorem HeedsFaults.bind_counting {t : Conversation α} {f : α → Conversation β}
    (ht : t.HeedsFaults) (hf : ∀ a, fault? a = none → (f a).HeedsFaults)
    (hfault : ∀ fault a, fault? a = some fault →
      ∃ b, f a = done b ∧ fault? b = some fault ∧ counted b = counted a)
    (hcounting : ∀ a, (f a).AtLeast (counted a)) : (t >>= f).HeedsFaults := by
  refine ht.bind hf ?_
  intro fault a ha
  obtain ⟨b, hb, hreport, hcounted⟩ := hfault fault a ha
  refine ⟨b, hb, hreport, fun whole hwhole => ?_⟩
  rw [hcounted]
  exact (hcounting whole).mono hwhole

end Conversation

namespace Console

/-- Reading fails only at a line that is not encoded in UTF-8. -/
theorem fault_of_readLine {c : Console} {fault : Fault} (h : c.readLine.1 = .error fault) :
    fault = .invalidEncoding := by
  simp only [readLine] at h
  split at h
  · cases h
  · split at h
    · cases h
    · cases h
      rfl

/-- Reading changes only what is left to read. -/
theorem readLine_snd (c : Console) :
    c.readLine.2 = { c with unread := c.readLine.2.unread } := by
  simp only [readLine]
  split
  · rfl
  · split <;> rfl

/-- Reading does not depend on what was written, or may be. -/
theorem readLine_congr {c d : Console} (h : c.unread = d.unread) :
    c.readLine.1 = d.readLine.1 ∧ c.readLine.2.unread = d.readLine.2.unread := by
  simp only [readLine, h]
  split
  · exact ⟨rfl, h⟩
  · split <;> exact ⟨rfl, rfl⟩

/-- What is left behind a line is an end of what there was to read. -/
theorem unread_readLine_suffix (c : Console) : c.readLine.2.unread <:+ c.unread := by
  simp only [readLine]
  split
  · exact List.suffix_rfl
  · have hsplit := Text.firstLine_append isLineFeed c.unread
    split <;> exact ⟨_, hsplit⟩

/-- A text that fits is written whole. -/
theorem write_of_le {text : String} {n : Nat} (h : (encode text).length ≤ n)
    (unread written : List UInt8) :
    write ⟨unread, written, some n⟩ text =
      (.ok (), ⟨unread, written ++ encode text, some (n - (encode text).length)⟩) := by
  simp [write, List.take_of_length_le h]

/-- Of a text that does not fit as much is written as there is room for, and the write fails. -/
theorem write_of_lt {text : String} {n : Nat} (h : n < (encode text).length)
    (unread written : List UInt8) :
    write ⟨unread, written, some n⟩ text =
      (.error .full, ⟨unread, written ++ (encode text).take n, some 0⟩) := by
  have hroom : n - (encode text).length = 0 := by omega
  simp [write, h, hroom, Nat.le_of_lt h]

end Console

namespace Conversation

variable {α : Type} [Reporting α]

/-- At least that much has been counted on a console. -/
theorem AtLeast.on {least : Session.Summary} {t : Conversation α} (h : t.AtLeast least)
    (c : Console) : least.NoMore (counted (t.on c).1) := by
  induction t generalizing c with
  | done a => exact h
  | read next ih => exact ih _ (h _) _
  | write text next ih => exact ih _ (h _) _

/-- The run `cut`, with room for `n` bytes, is the run `whole`, without a limit, up to where the
room ends. The second writes `output`. -/
structure CutOff (n : Nat) (before : Console) (output : List UInt8) (whole cut : α × Console) :
    Prop where
  whole_written : whole.2.written = before.written ++ output
  /-- As much of the output is written as there is room for. -/
  cut_written : cut.2.written = before.written ++ output.take n
  /-- That the output is full is reported exactly if not all of it has room. -/
  full_iff : fault? cut.1 = some .full ↔ n < output.length
  /-- If all has room, nothing else differs. -/
  of_fits : output.length ≤ n → cut.1 = whole.1 ∧ cut.2.unread = whole.2.unread
  /-- No more is read. -/
  whole_unread : whole.2.unread <:+ cut.2.unread
  cut_unread : cut.2.unread <:+ before.unread
  /-- No more is counted. -/
  counts : (counted cut.1).NoMore (counted whole.1)

/-- Where nothing is written, it does not matter how much room there is. -/
theorem cutOff_done {a : α} (h : fault? a ≠ some .full) (n : Nat) {rest unread : List UInt8}
    (hrest : rest <:+ unread) (written : List UInt8) :
    CutOff n ⟨unread, written, none⟩ []
      (a, ⟨rest, written, none⟩) (a, ⟨rest, written, some n⟩) where
  whole_written := (List.append_nil _).symm
  cut_written := by rw [List.take_nil, List.append_nil]
  full_iff := by simp [h]
  of_fits _ := ⟨rfl, rfl⟩
  whole_unread := List.suffix_rfl
  cut_unread := hrest
  counts := .refl _

/-- A text that fits takes its part of the room. -/
theorem CutOff.of_write {text : String} {n : Nat} {unread written output : List UInt8}
    {whole cut : α × Console} (hfits : (Console.encode text).length ≤ n)
    (h : CutOff (n - (Console.encode text).length)
      ⟨unread, written ++ Console.encode text, none⟩ output whole cut) :
    CutOff n ⟨unread, written, none⟩ (Console.encode text ++ output) whole cut where
  whole_written := by rw [h.whole_written, List.append_assoc]
  cut_written := by
    rw [h.cut_written, List.take_append, List.take_of_length_le hfits, List.append_assoc]
  full_iff := by
    rw [h.full_iff, List.length_append]
    omega
  of_fits hle := by
    rw [List.length_append] at hle
    exact h.of_fits (by omega)
  whole_unread := h.whole_unread
  cut_unread := h.cut_unread
  counts := h.counts

/-- At a text that does not fit, the run is cut off. -/
theorem CutOff.of_write_full {text : String} {n : Nat} {unread written output : List UInt8}
    {whole cut : α × Console} {a : α} (hlt : n < (Console.encode text).length)
    (h : CutOff 0 ⟨unread, written ++ Console.encode text, none⟩ output whole cut)
    (ha : fault? a = some .full) (hcounts : (counted a).NoMore (counted whole.1)) :
    CutOff n ⟨unread, written, none⟩ (Console.encode text ++ output) whole
      (a, ⟨unread, written ++ (Console.encode text).take n, some 0⟩) := by
  have hlength : n < (Console.encode text ++ output).length := by
    rw [List.length_append]
    omega
  refine ⟨?_, ?_, iff_of_true ha hlength, ?_, ?_, List.suffix_rfl, hcounts⟩
  · rw [h.whole_written, List.append_assoc]
  · rw [List.take_append_of_le_length (Nat.le_of_lt hlt)]
  · intro hle
    omega
  · exact h.whole_unread.trans h.cut_unread

/-- With little room, a conversation that heeds faults is cut off where the room ends. -/
theorem HeedsFaults.cutOff {t : Conversation α} (ht : t.HeedsFaults) (n : Nat)
    (unread written : List UInt8) :
    ∃ output, CutOff n ⟨unread, written, none⟩ output
      (t.on ⟨unread, written, none⟩) (t.on ⟨unread, written, some n⟩) := by
  induction t generalizing n unread written with
  | done a =>
    have hfault : fault? a ≠ some .full := by
      rw [show fault? a = none from ht]
      simp
    exact ⟨[], cutOff_done hfault n List.suffix_rfl written⟩
  | read next ih =>
    obtain ⟨hnext, hfail⟩ := ht
    -- what is read does not depend on the room
    have hfree := Console.readLine_snd ⟨unread, written, none⟩
    have hlimited := Console.readLine_snd ⟨unread, written, some n⟩
    obtain ⟨hanswer, hunread⟩ :=
      Console.readLine_congr (c := ⟨unread, written, some n⟩) (d := ⟨unread, written, none⟩) rfl
    have hrest := Console.unread_readLine_suffix ⟨unread, written, none⟩
    simp only [on, hanswer]
    rw [hfree, hlimited, hunread]
    cases hline : (Console.readLine ⟨unread, written, none⟩).1 with
    | error fault =>
      obtain ⟨a, hdone, ha⟩ := hfail fault
      have hfault : fault? a ≠ some .full := by
        rw [ha, Console.fault_of_readLine hline]
        simp
      rw [hdone]
      exact ⟨[], cutOff_done hfault n hrest written⟩
    | ok line =>
      obtain ⟨output, hcut⟩ := ih (.ok line) (hnext line) n
        (Console.readLine ⟨unread, written, none⟩).2.unread written
      exact ⟨output, { hcut with cut_unread := hcut.cut_unread.trans hrest }⟩
  | write text next ih =>
    obtain ⟨hnext, hfail⟩ := ht
    have hfree := Console.write_of_room_none (c := ⟨unread, written, none⟩) rfl text
    simp only [on, hfree]
    by_cases hfits : (Console.encode text).length ≤ n
    · obtain ⟨output, hcut⟩ := ih (.ok ()) hnext (n - (Console.encode text).length) unread
        (written ++ Console.encode text)
      rw [Console.write_of_le hfits]
      exact ⟨Console.encode text ++ output, hcut.of_write hfits⟩
    · have hlt : n < (Console.encode text).length := Nat.lt_of_not_le hfits
      obtain ⟨output, hcut⟩ := ih (.ok ()) hnext 0 unread (written ++ Console.encode text)
      obtain ⟨a, hdone, ha, hleast⟩ := hfail .full
      rw [Console.write_of_lt hlt, hdone]
      exact ⟨Console.encode text ++ output, hcut.of_write_full hlt ha (hleast.on _)⟩

end Conversation

end Calculator
