import ContainerBoard.Proofs.Outbox.Run

/-!
# Delivery

What a run of an outbox guarantees.  Accepted messages are received once and in
order, whichever way receives begin, are abandoned and begin again.  A message
is in one of three places on its way: handed to the pending receive, in the
backlog, or received.
-/

namespace ContainerBoard.Outbox

/-! ## The consumer's end -/

theorem emit_hasReceiver (box : Outbox) (message : String) :
    (box.emit message).2.hasReceiver = box.hasReceiver := by
  have hkeep : ∀ b : Outbox, (b.keep message).2.hasReceiver = b.hasReceiver := by
    intro b
    unfold keep
    split <;> rfl
  unfold emit
  split
  · rfl
  · split
    · split
      · rfl
      · exact hkeep _
    · exact hkeep _

theorem poll_hasReceiver (box : Outbox) :
    box.poll.2.hasReceiver = box.hasReceiver := by
  rcases poll_cases box with ⟨message, -, hp⟩ | ⟨-, -, hp⟩ | ⟨-, hp⟩
  · rw [hp]
  · rw [hp]
  · rw [hp]
    rcases startReceive_cases box with ⟨_, _, -, hs⟩ | ⟨-, -, hs⟩ | ⟨-, -, hs⟩ <;> rw [hs]

theorem abandon_hasReceiver (box : Outbox) :
    box.abandon.hasReceiver = box.hasReceiver := by
  unfold abandon
  split <;> rfl

theorem tryReceive_hasReceiver (box : Outbox) :
    box.tryReceive.2.hasReceiver = box.hasReceiver := by
  unfold tryReceive
  split <;> rfl

namespace Run

theorem hasReceiver_step (r : Run) (move : Move) :
    (r.step move).box.hasReceiver = (r.box.hasReceiver && move ≠ .dropReceiver) := by
  cases move with
  | emit message => simp [step, emit_hasReceiver]
  | close => simp [step, close]
  | poll =>
      cases hr : r.box.hasReceiver with
      | true => simp [step, hr, receive, poll_hasReceiver]
      | false => simp [step, hr]
  | abandon => simp [step, abandon_hasReceiver]
  | tryReceive =>
      by_cases hready : (r.box.hasReceiver && r.box.receive.isNone) = true
      · simp [step, hready, receive, tryReceive_hasReceiver]
      · simp [step, hready]
  | dropReceiver => simp [step, dropReceiver]

/-- The consumer's end is there until it is dropped. -/
theorem hasReceiver_foldl (r : Run) (moves : List Move) :
    (moves.foldl step r).box.hasReceiver = true ↔
      r.box.hasReceiver = true ∧ .dropReceiver ∉ moves := by
  induction moves generalizing r with
  | nil => simp
  | cons move moves ih =>
      simp only [List.foldl_cons, ih, hasReceiver_step, List.mem_cons, not_or,
        Bool.and_eq_true, decide_eq_true_eq, and_assoc, ne_comm]

theorem hasReceiver_ofMoves (capacity : Nat) (moves : List Move) :
    (ofMoves capacity moves).box.hasReceiver = true ↔ .dropReceiver ∉ moves := by
  rw [ofMoves, hasReceiver_foldl]
  simp [ofCapacity]

/-! ## Exactly once and in order -/

/-- Of the offers of a text, those that were accepted are those that were not
dropped. -/
theorem count_accepted (r : Run) (message : String) :
    r.accepted.count message + r.offered.count (message, .dropped) =
      (r.offered.map Prod.fst).count message := by
  simp only [accepted, ne_eq, decide_not]
  induction r.offered with
  | nil => rfl
  | cons offer offers ih =>
      obtain ⟨text, outcome⟩ := offer
      by_cases htext : text = message
      · by_cases hdropped : outcome = .dropped
        · simp [htext, hdropped]
          omega
        · simp [htext, hdropped]
          omega
      · by_cases hdropped : outcome = .dropped
        · simpa [htext, hdropped] using ih
        · simpa [htext, hdropped] using ih

/-- While the consumer is there, the messages received, the message handed to
the pending receive and the backlog are together the accepted messages in the
order in which they were offered.  In particular these three places have a text
as often as it was offered without being dropped. -/
theorem received_held_backlog_eq_accepted
    (capacity : Nat) (moves : List Move) (hreceiver : .dropReceiver ∉ moves) :
    let r := ofMoves capacity moves
    let places := r.received ++ r.box.held ++ r.box.backlog
    places = r.accepted ∧
      ∀ message,
        places.count message + r.offered.count (message, .dropped) =
          (r.offered.map Prod.fst).count message := by
  intro r places
  have haccounted : places = r.accepted :=
    (sound_ofMoves capacity moves).accounted
      ((hasReceiver_ofMoves capacity moves).mpr hreceiver)
  refine ⟨haccounted, ?_⟩
  intro message
  rw [haccounted]
  exact count_accepted r message

/-- A message that was handed over is put back when its receive is abandoned, and
is received before the one that was queued meanwhile.  The one that found no
room is nowhere. -/
theorem accounted_after_abandoned_receive :
    let moves : List Move :=
      [.poll, .emit "one", .emit "two", .emit "three", .abandon, .close, .emit "four",
        .tryReceive]
    let r := ofMoves 1 moves
    .dropReceiver ∉ moves ∧
      r.received = ["one"] ∧ r.box.held = [] ∧ r.box.backlog = ["two"] ∧
      r.received ++ r.box.held ++ r.box.backlog = r.accepted ∧
      (r.received ++ r.box.held ++ r.box.backlog).count "three" = 0 := by
  intro moves r
  have hreceiver : .dropReceiver ∉ moves := by decide
  obtain ⟨haccounted, hcount⟩ := received_held_backlog_eq_accepted 1 moves hreceiver
  refine ⟨hreceiver, rfl, rfl, rfl, haccounted, ?_⟩
  have hdropped : r.offered.count ("three", .dropped) = 1 := by decide
  have hoffered : (r.offered.map Prod.fst).count "three" = 1 := by decide
  have hthree :
      (r.received ++ r.box.held ++ r.box.backlog).count "three" +
        r.offered.count ("three", .dropped) = (r.offered.map Prod.fst).count "three" :=
    hcount "three"
  omega

/-! ## The representation -/

theorem held_length_le_one (box : Outbox) : box.held.length ≤ 1 := by
  unfold held
  split <;> simp

/-- The backlog and the message handed over outgrow the capacity by one message
at most: nothing is handed over while a message that was put back is left. -/
theorem Sound.backlog_held_length_le
    {capacity : Nat} {r : Run} (h : Sound capacity r) :
    r.box.backlog.length + r.box.held.length ≤ capacity + 1 := by
  obtain ⟨queued, hqueued, hle⟩ := h.backlog
  have hlength : r.box.backlog.length = r.putBack.length + queued.length := by
    rw [hqueued, List.length_append]
  by_cases hreceive : r.box.receive = none
  · have hputBack := h.putBack_length
    have hheld : r.box.held = [] := by simp [held, hreceive]
    simp only [hheld, List.length_nil]
    omega
  · have hputBack := congrArg List.length (h.pending hreceive)
    have hheld := held_length_le_one r.box
    simp only [List.length_nil] at hputBack
    omega

/-- An outbox without room and without a waiter drops what it is offered. -/
theorem emit_dropped_of_capacity_zero
    {box : Outbox} (hcapacity : box.capacity = 0)
    (hwaiter : box.hasWaiter = false) (message : String) :
    (box.emit message).1 = .dropped := by
  have hsound : box.hasWaiter = true → WaiterSound box := fun hw => by
    simp [hwaiter] at hw
  rcases emit_cases hsound message with ⟨hw, -⟩ | ⟨-, hroom, -⟩ | ⟨-, he⟩
  · simp [hwaiter] at hw
  · omega
  · rw [he]

/-- What every run guarantees about the fields of the outbox.  A waiter is
registered only for a pending receive on an open outbox with an empty backlog,
so a message emitted to a waiter is always delivered.  The backlog and the
message handed over are at most one more than there is room for, and what the
backlog has in excess was put back by an abandoned receive.  Without a consumer
nothing is kept. -/
theorem ofMoves_representation (capacity : Nat) (moves : List Move) :
    let r := ofMoves capacity moves
    (r.box.hasWaiter = true →
      r.box.isClosed = false ∧ r.box.hasReceiver = true ∧ r.box.backlog = [] ∧
        r.box.held = [] ∧ r.box.receive = some .waiting ∧
        ∀ message, (r.box.emit message).1 = .delivered) ∧
    r.box.backlog.length + r.box.held.length ≤ capacity + 1 ∧
    (∃ queued, r.box.backlog = r.putBack ++ queued ∧
      queued.length ≤ capacity ∧ r.putBack.length ≤ 1) ∧
    (.dropReceiver ∈ moves →
      r.box.backlog = [] ∧ ∀ message, (r.box.emit message).1 = .dropped) := by
  intro r
  have hsound : Sound capacity r := sound_ofMoves capacity moves
  refine ⟨?_, hsound.backlog_held_length_le, ?_, ?_⟩
  · intro hw
    have hs := hsound.waiter hw
    refine ⟨hs.isClosed, hs.hasReceiver, hs.backlog, hs.held, hs.receive, ?_⟩
    intro message
    rcases emit_cases hsound.waiter message with ⟨-, he⟩ | ⟨hno, -⟩ | ⟨hno, -⟩
    · rw [he]
    · simp [hw] at hno
    · simp [hw] at hno
  · obtain ⟨queued, hqueued, hle⟩ := hsound.backlog
    exact ⟨queued, hqueued, hle, hsound.putBack_length⟩
  · intro hdropped
    have hgone : r.box.hasReceiver = false :=
      Bool.eq_false_iff.mpr fun hr =>
        (hasReceiver_ofMoves capacity moves).mp hr hdropped
    obtain ⟨hcapacity, hbacklog, -⟩ := hsound.gone hgone
    have hwaiter : r.box.hasWaiter = false :=
      Bool.eq_false_iff.mpr fun hw => by
        have hr := (hsound.waiter hw).hasReceiver
        simp [hgone] at hr
    exact ⟨hbacklog, emit_dropped_of_capacity_zero hcapacity hwaiter⟩

/-- A waiting receive gets whatever is emitted, and nobody does after the
consumer is gone. -/
theorem representation_waiting_and_gone :
    let waiting := ofMoves 1 [.poll]
    let gone := ofMoves 1 [.poll, .emit "one", .dropReceiver]
    waiting.box.hasWaiter = true ∧ waiting.box.backlog = [] ∧
      (∀ message, (waiting.box.emit message).1 = .delivered) ∧
      gone.box.backlog = [] ∧ ∀ message, (gone.box.emit message).1 = .dropped := by
  intro waiting gone
  have hwaiter : waiting.box.hasWaiter = true := rfl
  obtain ⟨-, -, hbacklog, -, -, hdelivered⟩ := (ofMoves_representation 1 [.poll]).1 hwaiter
  have hgone :=
    (ofMoves_representation 1 [.poll, .emit "one", .dropReceiver]).2.2.2 (by decide)
  exact ⟨hwaiter, hbacklog, hdelivered, hgone⟩

end Run

end ContainerBoard.Outbox
