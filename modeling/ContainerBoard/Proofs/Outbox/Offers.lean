import ContainerBoard.Outbox

/-!
# Messages offered in a row

What an outbox is left with after several messages.  An outbox with enough
room keeps them all, so two lists of messages that no outbox tells apart are
the same list.
-/

namespace ContainerBoard.Outbox

/-- The outbox after messages were offered one after the other. -/
def offerAll (box : Outbox) (messages : List String) : Outbox :=
  messages.foldl (fun box message => (box.emit message).2) box

@[simp] theorem offerAll_nil (box : Outbox) : box.offerAll [] = box := rfl

@[simp] theorem offerAll_cons (box : Outbox) (message : String) (messages : List String) :
    box.offerAll (message :: messages) = (box.emit message).2.offerAll messages := rfl

theorem isClosed_keep (box : Outbox) (message : String) :
    (box.keep message).2.isClosed = box.isClosed := by
  unfold keep
  split <;> rfl

/-- Offering a message neither closes an outbox nor opens it again. -/
theorem isClosed_emit (box : Outbox) (message : String) :
    (box.emit message).2.isClosed = box.isClosed := by
  unfold emit
  split
  · rfl
  · split
    · split
      · rfl
      · exact isClosed_keep _ message
    · exact isClosed_keep box message

/-! ## Receiving neither closes an outbox nor opens it again -/

theorem isClosed_startReceive (box : Outbox) :
    box.startReceive.2.isClosed = box.isClosed := by
  unfold startReceive
  split
  · rfl
  · split <;> rfl

theorem isClosed_poll (box : Outbox) : box.poll.2.isClosed = box.isClosed := by
  unfold poll
  split
  · rfl
  · split
    · rfl
    · exact box.isClosed_startReceive
  · exact box.isClosed_startReceive

theorem isClosed_abandon (box : Outbox) : box.abandon.isClosed = box.isClosed := by
  unfold abandon
  split <;> rfl

theorem isClosed_tryReceive (box : Outbox) : box.tryReceive.2.isClosed = box.isClosed := by
  unfold tryReceive
  split <;> rfl

/-! ## Offering in a row -/

/-- While nobody waits, an open outbox keeps as many messages as there is room
for, and drops the rest. -/
theorem offerAll_of_not_hasWaiter
    (box : Outbox) (hopen : box.isClosed = false) (hwaiter : box.hasWaiter = false)
    (messages : List String) :
    box.offerAll messages =
      { box with
        backlog :=
          box.backlog ++ messages.take (box.capacity - box.backlog.length) } := by
  induction messages generalizing box with
  | nil => simp
  | cons message messages ih =>
      rw [offerAll_cons]
      by_cases hroom : box.backlog.length < box.capacity
      · have hemit : (box.emit message).2 =
            { box with backlog := box.backlog ++ [message] } := by
          simp [emit, hopen, hwaiter, keep, hroom]
        have hrest : box.capacity - box.backlog.length =
            box.capacity - (box.backlog.length + 1) + 1 := by omega
        rw [hemit, ih { box with backlog := box.backlog ++ [message] } hopen hwaiter, hrest]
        simp
      · have hemit : (box.emit message).2 = box := by
          simp [emit, hopen, hwaiter, keep, hroom]
        have hfull : box.capacity - box.backlog.length = 0 := by omega
        rw [hemit, ih box hopen hwaiter, hfull, List.take_zero, List.take_zero]

/-- A new outbox keeps messages in its backlog as long as there is room. -/
theorem offerAll_ofCapacity
    {capacity : Nat} {messages : List String} (hroom : messages.length ≤ capacity) :
    ((ofCapacity capacity).offerAll messages).backlog = messages := by
  rw [offerAll_of_not_hasWaiter _ rfl rfl]
  exact List.take_of_length_le hroom

/-- What is offered can be told from what it does to outboxes. -/
theorem eq_of_offerAll_eq
    {messages messages' : List String}
    (h : ∀ box : Outbox, box.offerAll messages = box.offerAll messages') :
    messages = messages' := by
  let capacity := messages.length + messages'.length
  have hmessages :
      ((ofCapacity capacity).offerAll messages).backlog = messages :=
    offerAll_ofCapacity (Nat.le_add_right _ _)
  have hmessages' :
      ((ofCapacity capacity).offerAll messages').backlog = messages' :=
    offerAll_ofCapacity (Nat.le_add_left _ _)
  rw [← hmessages, ← hmessages', h]

end ContainerBoard.Outbox
