import ContainerBoard.Proofs.Outbox.Offers
import ContainerBoard.Proofs.Outbox.Run

/-!
# A consumer that goes on receiving

A consumer that polls again and again receives first what was handed over, then
the backlog.  If it waited when some messages were offered in a row, the first
was handed over, and of the others those are left for which there was room.
-/

namespace ContainerBoard.Outbox

/-- The messages that so many polls in a row return. -/
def polled (box : Outbox) : Nat → List String
  | 0 => []
  | polls + 1 => box.poll.1.message?.toList ++ box.poll.2.polled polls

/-- A consumer waits, and there is nothing for it to take. -/
structure IsParked (box : Outbox) : Prop extends WaiterSound box where
  hasWaiter : box.hasWaiter = true

theorem polled_eq
    (box : Outbox) (hreceiver : box.hasReceiver = true)
    (hwaiter : box.hasWaiter = true → WaiterSound box) (polls : Nat) :
    box.polled polls = (box.held ++ box.backlog).take polls := by
  induction polls generalizing box with
  | zero => simp [polled]
  | succ polls ih =>
      rw [polled]
      -- the receive holds a message, or waits for one, or is begun by this poll
      rcases poll_cases box with ⟨message, hr, hp⟩ | ⟨-, hw, hp⟩ | ⟨hheld, hp⟩
      · rw [hp, ih { box with hasWaiter := false, receive := none } hreceiver (by simp)]
        simp [held, hr, Poll.message?]
      · have hs := hwaiter hw
        rw [hp, ih box hreceiver hwaiter]
        simp [hs.held, hs.backlog, Poll.message?]
      · rw [hp, hheld, List.nil_append]
        rcases startReceive_cases box with
          ⟨message, rest, hb, hs⟩ | ⟨hb, -, hs⟩ | ⟨hb, hopen, hs⟩
        · rw [hs, hb, ih { box with backlog := rest, hasWaiter := false, receive := none }
            hreceiver (by simp)]
          simp [held, Poll.message?]
        · rw [hs, ih { box with hasWaiter := false, receive := none } hreceiver (by simp)]
          simp [held, Poll.message?, hb]
        · have hparked : WaiterSound
              { box with hasWaiter := true, receive := some .waiting } :=
            { isClosed := hopen, hasReceiver := hreceiver, backlog := hb, receive := rfl }
          rw [hs, ih _ hparked.hasReceiver fun _ => hparked]
          simp [held, Poll.message?, hb]

/-- Of messages offered in a row, a consumer that was waiting receives one more
than there is room for, from the first on. -/
theorem polled_offerAll_of_isParked
    {box : Outbox} (h : IsParked box) (messages : List String) (polls : Nat) :
    (box.offerAll messages).polled polls =
      (messages.take (box.capacity + 1)).take polls := by
  cases messages with
  | nil =>
      rw [offerAll_nil, polled_eq box h.hasReceiver fun _ => h.toWaiterSound, h.held,
        h.backlog]
      simp
  | cons message messages =>
      -- the first message is handed over, and nobody waits for the others
      have hemit : (box.emit message).2 =
          { box with hasWaiter := false, receive := some (.holding message) } := by
        simp [emit, h.isClosed, h.hasWaiter, h.receive]
      have hoffer := offerAll_of_not_hasWaiter
        { box with hasWaiter := false, receive := some (.holding message) }
        h.isClosed rfl messages
      rw [offerAll_cons, hemit, hoffer, polled_eq]
      · simp [held, h.backlog]
      · exact h.hasReceiver
      · simp

end ContainerBoard.Outbox
