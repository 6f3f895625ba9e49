import ContainerBoard.Outbox

/-!
# Runs of an outbox

A run is any sequence of what producers and the consumer can do with one
outbox.  Next to the outbox it remembers the messages offered with their
outcomes and the messages that receives returned.

The main result is that every run is sound: a waiter is registered only while
there is nothing else for the consumer to take, and the backlog has grown
beyond the capacity by at most one message that an abandoned receive put back.
-/

namespace ContainerBoard

/-- The message that a poll returns, if any. -/
def Poll.message? : Poll → Option String
  | pending => none
  | ready message => message

namespace Outbox

/-- What producers and the consumer do with an outbox.  Producers share it, so
it makes no difference which of them emits a message or closes the outbox. -/
inductive Move where
  | emit (message : String)
  | close
  | poll
  | abandon
  | tryReceive
  | dropReceiver
  deriving DecidableEq, Repr

/-- The message handed to the pending receive and not yet returned. -/
def held (box : Outbox) : List String :=
  match box.receive with
  | some (.holding message) => [message]
  | _ => []

/-- An outbox with what became of its messages so far. -/
structure Run where
  box : Outbox
  /-- The messages offered with their outcomes, oldest first. -/
  offered : List (String × EmitOutcome) := []
  /-- The messages that receives returned, oldest first. -/
  received : List String := []
  /-- The messages of the backlog that abandoned receives put back. -/
  putBack : List String := []

namespace Run

/-- The messages that were not dropped, oldest first. -/
def accepted (r : Run) : List String :=
  (r.offered.filter fun offer => offer.2 ≠ .dropped).map Prod.fst

/-- A receive leaves the outbox behind and may return a message.  What it took
from the front of the backlog is no longer there as put back. -/
def receive (r : Run) (message : Option String) (box : Outbox) : Run :=
  { r with
    box
    received := r.received ++ message.toList
    putBack := r.putBack.drop (r.box.backlog.length - box.backlog.length) }

/-- Makes a move.  The consumer needs its end of the outbox for a receive, and
does not look into the backlog while a receive is pending. -/
def step (r : Run) : Move → Run
  | .emit message =>
    let (outcome, box) := r.box.emit message
    { r with box, offered := r.offered ++ [(message, outcome)] }
  | .close => { r with box := r.box.close }
  | .poll =>
    if r.box.hasReceiver then r.receive r.box.poll.1.message? r.box.poll.2 else r
  | .abandon => { r with box := r.box.abandon, putBack := r.box.held ++ r.putBack }
  | .tryReceive =>
    if r.box.hasReceiver && r.box.receive.isNone then
      r.receive r.box.tryReceive.1 r.box.tryReceive.2
    else r
  | .dropReceiver => { r with box := r.box.dropReceiver, putBack := [] }

def ofMoves (capacity : Nat) (moves : List Move) : Run :=
  moves.foldl step { box := .ofCapacity capacity }

end Run

/-! ## What one operation can do -/

/-- A registered waiter is a pending receive that nothing was handed to, on an
open outbox with a consumer and an empty backlog. -/
structure WaiterSound (box : Outbox) : Prop where
  isClosed : box.isClosed = false
  hasReceiver : box.hasReceiver = true
  backlog : box.backlog = []
  receive : box.receive = some .waiting

theorem WaiterSound.held {box : Outbox} (h : WaiterSound box) : box.held = [] := by
  simp [Outbox.held, h.receive]

/-- An emitted message is handed over, queued or dropped, and is dropped only
when nobody waits for it. -/
theorem emit_cases
    {box : Outbox} (hwaiter : box.hasWaiter = true → WaiterSound box)
    (message : String) :
    (box.hasWaiter = true ∧
      box.emit message =
        (.delivered,
          { box with hasWaiter := false, receive := some (.holding message) })) ∨
    (box.hasWaiter = false ∧ box.backlog.length < box.capacity ∧
      box.emit message = (.queued, { box with backlog := box.backlog ++ [message] })) ∨
    (box.hasWaiter = false ∧ box.emit message = (.dropped, box)) := by
  cases hw : box.hasWaiter with
  | true =>
      have hs := hwaiter hw
      refine Or.inl ⟨rfl, ?_⟩
      simp [emit, hs.isClosed, hw, hs.receive]
  | false =>
      refine Or.inr ?_
      by_cases hclosed : box.isClosed = true
      · exact Or.inr ⟨rfl, by simp [emit, hclosed]⟩
      · by_cases hroom : box.backlog.length < box.capacity
        · exact Or.inl ⟨rfl, hroom, by simp [emit, hclosed, hw, keep, hroom]⟩
        · exact Or.inr ⟨rfl, by simp [emit, hclosed, hw, keep, hroom]⟩

theorem startReceive_cases (box : Outbox) :
    (∃ message rest, box.backlog = message :: rest ∧
      box.startReceive =
        (.ready (some message),
          { box with backlog := rest, hasWaiter := false, receive := none })) ∨
    (box.backlog = [] ∧ box.isClosed = true ∧
      box.startReceive =
        (.ready none, { box with hasWaiter := false, receive := none })) ∨
    (box.backlog = [] ∧ box.isClosed = false ∧
      box.startReceive =
        (.pending, { box with hasWaiter := true, receive := some .waiting })) := by
  cases hb : box.backlog with
  | cons message rest =>
      exact Or.inl ⟨message, rest, rfl, by simp [startReceive, hb]⟩
  | nil =>
      refine Or.inr ?_
      cases hclosed : box.isClosed with
      | true => exact Or.inl ⟨rfl, rfl, by simp [startReceive, hb, hclosed]⟩
      | false => exact Or.inr ⟨rfl, rfl, by simp [startReceive, hb, hclosed]⟩

/-- A poll returns the message handed over, or stays pending with a waiter, or
begins a receive. -/
theorem poll_cases (box : Outbox) :
    (∃ message, box.receive = some (.holding message) ∧
      box.poll =
        (.ready (some message), { box with hasWaiter := false, receive := none })) ∨
    (box.receive = some .waiting ∧ box.hasWaiter = true ∧ box.poll = (.pending, box)) ∨
    (box.held = [] ∧ box.poll = box.startReceive) := by
  rcases hr : box.receive with _ | _ | message
  · exact Or.inr (Or.inr ⟨by simp [held, hr], by simp [poll, hr]⟩)
  · by_cases hw : box.hasWaiter = true
    · exact Or.inr (Or.inl ⟨rfl, hw, by simp [poll, hr, hw]⟩)
    · exact Or.inr (Or.inr ⟨by simp [held, hr], by simp [poll, hr, hw]⟩)
  · exact Or.inl ⟨message, rfl, by simp [poll, hr]⟩

/-- Without a receive, what a look into the backlog takes is what beginning a
receive would take. -/
theorem tryReceive_cases
    {box : Outbox} (hwaiter : box.hasWaiter = true → WaiterSound box)
    (hreceive : box.receive = none) :
    (∃ message rest, box.backlog = message :: rest ∧
      box.tryReceive =
        (some message,
          { box with backlog := rest, hasWaiter := false, receive := none })) ∨
    (box.backlog = [] ∧ box.tryReceive = (none, box)) := by
  cases hb : box.backlog with
  | nil => exact Or.inr ⟨rfl, by simp [tryReceive, hb]⟩
  | cons message rest =>
      have hw : box.hasWaiter = false :=
        Bool.eq_false_iff.mpr fun hw => by simp [(hwaiter hw).backlog] at hb
      refine Or.inl ⟨message, rest, rfl, ?_⟩
      simp [tryReceive, hb, ← hw, ← hreceive]

/-- Giving up the pending receive puts back what was handed to it. -/
theorem abandon_eq
    {box : Outbox} (hwaiter : box.hasWaiter = true → WaiterSound box) :
    box.abandon =
      { box with
        backlog := box.held ++ box.backlog, hasWaiter := false, receive := none } := by
  rcases hr : box.receive with _ | _ | message
  · have hw : box.hasWaiter = false :=
      Bool.eq_false_iff.mpr fun hw => by simp [(hwaiter hw).receive] at hr
    simp only [abandon, held, hr, List.nil_append]
    rw [← hw, ← hr]
  · simp [abandon, held, hr]
  · simp [abandon, held, hr]

theorem dropReceiver_eq (box : Outbox) :
    box.dropReceiver =
      { box with
        capacity := 0, backlog := [], hasWaiter := false, receive := none,
        hasReceiver := false } := by
  rcases hr : box.receive with _ | _ | message <;> simp [dropReceiver, abandon, hr]

/-! ## The invariant of a run -/

namespace Run

/-- What holds in every run of an outbox with room for `capacity` messages. -/
structure Sound (capacity : Nat) (r : Run) : Prop where
  waiter : r.box.hasWaiter = true → WaiterSound r.box
  room : r.box.hasReceiver = true → r.box.capacity = capacity
  gone : r.box.hasReceiver = false →
    r.box.capacity = 0 ∧ r.box.backlog = [] ∧ r.box.receive = none
  /-- The backlog is what was put back followed by what was queued. -/
  backlog : ∃ queued, r.box.backlog = r.putBack ++ queued ∧ queued.length ≤ capacity
  putBack_length : r.putBack.length ≤ 1
  /-- A receive is pending only after all that was put back is taken. -/
  pending : r.box.receive ≠ none → r.putBack = []
  /-- No message is lost, and the order is kept. -/
  accounted : r.box.hasReceiver = true →
    r.received ++ r.box.held ++ r.box.backlog = r.accepted

theorem sound_start (capacity : Nat) :
    Sound capacity { box := .ofCapacity capacity } where
  waiter h := by simp [ofCapacity] at h
  room _ := rfl
  gone h := by simp [ofCapacity] at h
  backlog := ⟨[], rfl, Nat.zero_le _⟩
  putBack_length := Nat.zero_le _
  pending _ := rfl
  accounted _ := rfl

variable {capacity : Nat} {r : Run}

theorem step_emit
    {message : String} {outcome : EmitOutcome} {box : Outbox}
    (h : r.box.emit message = (outcome, box)) :
    r.step (.emit message) =
      { r with box, offered := r.offered ++ [(message, outcome)] } := by
  simp [step, h]

theorem accepted_offer (r : Run) (box : Outbox) (message : String) (outcome : EmitOutcome) :
    accepted { r with box, offered := r.offered ++ [(message, outcome)] } =
      r.accepted ++ if outcome = .dropped then [] else [message] := by
  by_cases h : outcome = .dropped
  · simp [accepted, h]
  · simp [accepted, h]

theorem sound_emit (h : Sound capacity r) (message : String) :
    Sound capacity (r.step (.emit message)) := by
  obtain ⟨queued, hqueued, hle⟩ := h.backlog
  rcases emit_cases h.waiter message with ⟨hw, he⟩ | ⟨hw, hroom, he⟩ | ⟨hw, he⟩
  · have hs := h.waiter hw
    have hputBack : r.putBack = [] := h.pending (by simp [hs.receive])
    rw [step_emit he]
    exact
      { waiter := by simp
        room := h.room
        gone := fun hgone => by simp [hs.hasReceiver] at hgone
        backlog := ⟨queued, hqueued, hle⟩
        putBack_length := h.putBack_length
        pending := fun _ => hputBack
        accounted := fun hr => by
          have hsum := h.accounted hr
          simp only [hs.held, hs.backlog, List.append_nil] at hsum
          rw [accepted_offer, ← hsum]
          simp [held, hs.backlog] }
  · rw [step_emit he]
    exact
      { waiter := by simp [hw]
        room := h.room
        gone := fun hgone => by
          have hnone := (h.gone hgone).1
          omega
        backlog := by
          refine ⟨queued ++ [message], by simp [hqueued], ?_⟩
          have hr : r.box.hasReceiver = true := by
            by_cases hr : r.box.hasReceiver = true
            · exact hr
            · have hnone := (h.gone (by simpa using hr)).1
              omega
          have hcapacity := h.room hr
          have hlength := congrArg List.length hqueued
          simp only [List.length_append, List.length_singleton] at hlength ⊢
          omega
        putBack_length := h.putBack_length
        pending := h.pending
        accounted := fun hr => by
          rw [accepted_offer, ← h.accounted hr]
          simp [held] }
  · rw [step_emit he]
    exact
      { waiter := h.waiter
        room := h.room
        gone := h.gone
        backlog := h.backlog
        putBack_length := h.putBack_length
        pending := h.pending
        accounted := fun hr => by
          rw [accepted_offer, ← h.accounted hr]
          simp }

theorem sound_close (h : Sound capacity r) : Sound capacity (r.step .close) where
  waiter hw := by simp [step, close] at hw
  room := h.room
  gone := h.gone
  backlog := h.backlog
  putBack_length := h.putBack_length
  pending := h.pending
  accounted := h.accounted

theorem sound_abandon (h : Sound capacity r) : Sound capacity (r.step .abandon) := by
  obtain ⟨queued, hqueued, hle⟩ := h.backlog
  simp only [step, abandon_eq h.waiter]
  exact
    { waiter := by simp
      room := h.room
      gone := fun hgone => by
        obtain ⟨hcapacity, hbacklog, hreceive⟩ := h.gone hgone
        simp [hcapacity, hbacklog, hreceive, held]
      backlog := ⟨queued, by simp [hqueued], hle⟩
      putBack_length := by
        by_cases hr : r.box.receive = none
        · simpa [held, hr] using h.putBack_length
        · have hputBack := h.pending hr
          simp only [held, hputBack, List.append_nil]
          split <;> simp
      pending := by simp
      accounted := fun hr => by
        have hsum := h.accounted hr
        simp only [accepted, List.append_assoc] at hsum
        simpa [accepted, held] using hsum }

theorem sound_dropReceiver (capacity : Nat) (r : Run) :
    Sound capacity (r.step .dropReceiver) := by
  simp only [step, dropReceiver_eq]
  exact
    { waiter := by simp
      room := by simp
      gone := by simp
      backlog := ⟨[], by simp⟩
      putBack_length := by simp
      pending := by simp
      accounted := by simp }

/-- Taking the first message of the backlog, while nothing was handed over. -/
theorem sound_take
    (h : Sound capacity r) (hr : r.box.hasReceiver = true) (hheld : r.box.held = [])
    {message : String} {rest : List String} (hbacklog : r.box.backlog = message :: rest) :
    Sound capacity
      (r.receive (some message)
        { r.box with backlog := rest, hasWaiter := false, receive := none }) := by
  obtain ⟨queued, hqueued, hle⟩ := h.backlog
  have htaken : r.box.backlog.length - rest.length = 1 := by simp [hbacklog]
  simp only [receive, htaken]
  exact
    { waiter := by simp
      room := h.room
      gone := fun hgone => by simp [hr] at hgone
      backlog := by
        cases hp : r.putBack with
        | nil =>
            refine ⟨rest, by simp, ?_⟩
            have hlength := congrArg List.length (hbacklog.symm.trans hqueued)
            simp only [hp, List.nil_append, List.length_cons] at hlength
            omega
        | cons first more =>
            rw [hp, hbacklog, List.cons_append] at hqueued
            exact ⟨queued, by simp [(List.cons.inj hqueued).2], hle⟩
      putBack_length := by
        have hlength := h.putBack_length
        simp only [List.length_drop]
        omega
      pending := by simp
      accounted := fun _ => by
        have hsum := h.accounted hr
        simp only [hheld, hbacklog, List.append_nil] at hsum
        simpa [accepted, held] using hsum }

/-- Beginning a receive, while nothing was handed over. -/
theorem sound_startReceive
    (h : Sound capacity r) (hr : r.box.hasReceiver = true) (hheld : r.box.held = []) :
    Sound capacity (r.receive r.box.startReceive.1.message? r.box.startReceive.2) := by
  have hsum := h.accounted hr
  rw [hheld, List.append_nil] at hsum
  obtain ⟨queued, hqueued, hle⟩ := h.backlog
  rcases startReceive_cases r.box with
    ⟨message, rest, hb, hs⟩ | ⟨hb, hclosed, hs⟩ | ⟨hb, hclosed, hs⟩
  · rw [hs]
    exact sound_take h hr hheld hb
  · rw [hs]
    exact
      { waiter := by simp [receive]
        room := h.room
        gone := fun hgone => by simp [receive, hr] at hgone
        backlog := ⟨queued, by simpa [receive] using hqueued, hle⟩
        putBack_length := by simpa [receive] using h.putBack_length
        pending := by simp [receive]
        accounted := fun _ => by
          simpa [receive, accepted, held, Poll.message?] using hsum }
  · rw [hs]
    have hputBack : r.putBack = [] := by
      rw [hb] at hqueued
      exact (List.append_eq_nil_iff.mp hqueued.symm).1
    exact
      { waiter := fun _ =>
          { isClosed := hclosed, hasReceiver := hr, backlog := hb, receive := rfl }
        room := h.room
        gone := fun hgone => by simp [receive, hr] at hgone
        backlog := ⟨queued, by simpa [receive] using hqueued, hle⟩
        putBack_length := by simp [receive, hputBack]
        pending := fun _ => by simp [receive, hputBack]
        accounted := fun _ => by
          simpa [receive, accepted, held, Poll.message?] using hsum }

theorem sound_poll (h : Sound capacity r) : Sound capacity (r.step .poll) := by
  cases hr : r.box.hasReceiver with
  | false => simpa [step, hr] using h
  | true =>
      simp only [step, hr, if_true]
      rcases poll_cases r.box with ⟨message, hm, hp⟩ | ⟨-, -, hp⟩ | ⟨hheld, hp⟩
      · rw [hp]
        have hputBack : r.putBack = [] := h.pending (by simp [hm])
        obtain ⟨queued, hqueued, hle⟩ := h.backlog
        exact
          { waiter := by simp [receive]
            room := h.room
            gone := fun hgone => by simp [receive, hr] at hgone
            backlog := ⟨queued, by simpa [receive] using hqueued, hle⟩
            putBack_length := by simp [receive, hputBack]
            pending := by simp [receive]
            accounted := fun _ => by
              have hsum := h.accounted hr
              simp only [held, hm] at hsum
              simpa [receive, accepted, held, Poll.message?] using hsum }
      · rw [hp]
        simpa [receive, Poll.message?] using h
      · rw [hp]
        exact sound_startReceive h hr hheld

theorem sound_tryReceive (h : Sound capacity r) :
    Sound capacity (r.step .tryReceive) := by
  by_cases hready : (r.box.hasReceiver && r.box.receive.isNone) = true
  · simp only [step, hready, if_true]
    rw [Bool.and_eq_true, Option.isNone_iff_eq_none] at hready
    obtain ⟨hr, hreceive⟩ := hready
    rcases tryReceive_cases h.waiter hreceive with ⟨message, rest, hb, ht⟩ | ⟨-, ht⟩
    · rw [ht]
      exact sound_take h hr (by simp [held, hreceive]) hb
    · rw [ht]
      simpa [receive] using h
  · simpa [step, hready] using h

theorem sound_step (h : Sound capacity r) (move : Move) :
    Sound capacity (r.step move) := by
  cases move with
  | emit message => exact sound_emit h message
  | close => exact sound_close h
  | poll => exact sound_poll h
  | abandon => exact sound_abandon h
  | tryReceive => exact sound_tryReceive h
  | dropReceiver => exact sound_dropReceiver capacity r

theorem sound_foldl (h : Sound capacity r) (moves : List Move) :
    Sound capacity (moves.foldl step r) := by
  induction moves generalizing r with
  | nil => exact h
  | cons move moves ih => exact ih (sound_step h move)

/-- Every run of an outbox is sound. -/
theorem sound_ofMoves (capacity : Nat) (moves : List Move) :
    Sound capacity (ofMoves capacity moves) :=
  sound_foldl (sound_start capacity) moves

end Run

end Outbox

end ContainerBoard
