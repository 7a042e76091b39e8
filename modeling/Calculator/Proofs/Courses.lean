import Calculator.Proofs.Dialogue
import Calculator.Proofs.Prompts

/-!
# Courses of conversations

On a console without a limit a conversation takes one course: what is said and heard in order, what
it comes to, and what is left to read. The courses of the parts of a conversation make up the
course of the whole.
-/

namespace Calculator

deriving instance DecidableEq for Exchange

/-- The bytes that an exchange adds to the output of a console. -/
def Exchange.bytes : Exchange → List UInt8
  | said text _ => Console.encode text
  | heard _ => []

namespace Conversation

variable {α β : Type}

/-- With `unread` to read and room for everything, a conversation comes to `a` by way of
`exchanges`, and `left` is left to read. -/
structure Course (t : Conversation α) (unread : List UInt8) (exchanges : List Exchange) (a : α)
    (left : List UInt8) : Prop where
  transcript : ∀ written, t.transcript ⟨unread, written, none⟩ = exchanges
  on : ∀ written, t.on ⟨unread, written, none⟩ =
    (a, ⟨left, written ++ exchanges.flatMap Exchange.bytes, none⟩)

/-- Where nothing is asked, nothing happens. -/
theorem course_pure (a : α) (unread : List UInt8) :
    (pure a : Conversation α).Course unread [] a unread where
  transcript _ := rfl
  on written := by
    rw [List.flatMap_nil, List.append_nil]
    rfl

/-- A text is written whole. -/
theorem course_write (text : String) (unread : List UInt8) :
    (Terminal.write text : Conversation _).Course unread [.said text (.ok ())] (.ok ()) unread where
  transcript written := by
    have hwrite := Console.write_of_room_none (c := ⟨unread, written, none⟩) rfl text
    show [Exchange.said text (Console.write ⟨unread, written, none⟩ text).1] = _
    rw [hwrite]
  on written := by
    rw [on_write_free]
    simp [Exchange.bytes]

/-- The course of what follows goes on from where the first part has ended. -/
theorem Course.bind {t : Conversation α} {f : α → Conversation β}
    {unread middle left : List UInt8} {exchanges others : List Exchange} {a : α} {b : β}
    (ht : t.Course unread exchanges a middle) (hf : (f a).Course middle others b left) :
    (t >>= f).Course unread (exchanges ++ others) b left where
  transcript written := by
    rw [transcript_bind, ht.transcript, ht.on, hf.transcript]
  on written := by
    rw [on_bind_apply, ht.on, hf.on, List.flatMap_append, List.append_assoc]

end Conversation

end Calculator
