import ContainerBoard.Proofs.Feed.Turn

/-!
# Runs of a feed

A run is any schedule of what the sender, the holder of the handle and the
pipeline do with one feed.  Next to the feed it remembers the events that the
stream accepted and the events that the pipeline handled.

The main result is the account of a run: handled events are accepted events, in
order, and the log, the redraws and the number that the pipeline gives in the
end all agree with them.
-/

namespace ContainerBoard.Feed

/-- What happens to a feed.  The pipeline is given turns of any length; in
between, the others may do anything. -/
inductive Move where
  | send (event : DaemonEvent)
  | endStream
  | cancel
  | abandon
  | turn (passes : Nat)
  | settle
  | join
  deriving DecidableEq

/-- A feed with what became of its events so far, oldest first. -/
structure Run (ρ : Type) where
  feed : Feed ρ
  accepted : List DaemonEvent := []
  handled : List DaemonEvent := []

namespace Run

variable {ρ : Type} [Refresh ρ]

def take (r : Run ρ) (turn : Pipeline.Turn) : Run ρ :=
  { r with feed := r.feed.after turn, handled := r.handled ++ turn.events }

def step (r : Run ρ) : Move → Run ρ
  | .send event =>
    let (accepted, feed) := r.feed.send event
    { r with
      feed
      accepted := r.accepted ++ if accepted = some true then [event] else [] }
  | .endStream => { r with feed := r.feed.endStream.2 }
  | .cancel => { r with feed := r.feed.cancel.2 }
  | .abandon => { r with feed := r.feed.abandon.2 }
  | .turn passes => r.take (r.feed.turn passes)
  | .settle =>
    { r with feed := r.feed.settle, handled := r.handled ++ r.feed.longTurn.events }
  | .join =>
    { r with
      feed := r.feed.join.2
      handled := r.handled ++ if r.feed.isJoined then [] else r.feed.longTurn.events }

def ofMoves (buffer capacity : Nat) (redraws : ρ) (moves : List Move) : Run ρ :=
  moves.foldl step { feed := .start buffer capacity redraws }

theorem ofMoves_append (buffer capacity : Nat) (redraws : ρ) (moves later : List Move) :
    ofMoves buffer capacity redraws (moves ++ later) =
      later.foldl step (ofMoves buffer capacity redraws moves) :=
  List.foldl_append

theorem step_settle (r : Run ρ) : r.step .settle = r.take r.feed.longTurn := by
  simp only [step, take, settle_eq]

theorem step_join (r : Run ρ) :
    r.step .join =
      if r.feed.isJoined then r
      else { r.step .settle with feed := { r.feed.settle with isJoined := true } } := by
  simp only [step, join]
  split <;> simp

/-! ## The account of a run -/

/-- What holds in every run of a feed with room for `capacity` events in its
log. -/
structure Sound (capacity : Nat) (redraws : ρ) (r : Run ρ) : Prop where
  isAborted : r.feed.pipeline.isAborted = false
  count : r.feed.pipeline.handled = r.handled.length
  redraws : r.feed.redraws = refreshTimes r.handled.length redraws
  events : r.feed.events = (EventLog.ofCapacity capacity).pushAll r.handled
  /-- No event is skipped or handled twice. -/
  inOrder : r.handled ++ r.feed.stream.queue <+: r.accepted
  /-- As long as the pipeline goes on, and even after it stopped with its handle
  held, no accepted event is lost. -/
  complete : r.feed.pipeline.isStopped = false ∨ r.feed.signal = .live →
    r.handled ++ r.feed.stream.queue = r.accepted
  /-- A pipeline that has stopped hung up. -/
  stopped : r.feed.pipeline.isStopped = true →
    r.feed.stream.queue = [] ∧ r.feed.stream.isListening = false

theorem sound_start (buffer capacity : Nat) (redraws : ρ) :
    Sound capacity redraws { feed := .start buffer capacity redraws } where
  isAborted := rfl
  count := rfl
  redraws := rfl
  events := rfl
  inOrder := List.prefix_refl _
  complete _ := rfl
  stopped h := by simp [start] at h

variable {capacity : Nat} {redraws : ρ} {r : Run ρ}

theorem sound_send (h : Sound capacity redraws r) (event : DaemonEvent) :
    Sound capacity redraws (r.step (.send event)) := by
  rcases r.feed.send_cases event with ⟨hlistening, hsend⟩ | ⟨hrefused, hsend⟩
  · have hgoes : r.feed.pipeline.isStopped = false := by
      cases hstopped : r.feed.pipeline.isStopped with
      | false => rfl
      | true => simp [(h.stopped hstopped).2] at hlistening
    have hall : r.handled ++ (r.feed.stream.queue ++ [event]) = r.accepted ++ [event] := by
      rw [← List.append_assoc, h.complete (.inl hgoes)]
    simp only [step, hsend, if_true]
    exact
      { isAborted := h.isAborted
        count := h.count
        redraws := h.redraws
        events := h.events
        inOrder := hall ▸ List.prefix_refl _
        complete := fun _ => hall
        stopped := fun hstopped => by simp [hgoes] at hstopped }
  · simpa [step, hsend, hrefused] using h

theorem sound_endStream (h : Sound capacity redraws r) :
    Sound capacity redraws (r.step .endStream) :=
  ⟨h.isAborted, h.count, h.redraws, h.events, h.inOrder, h.complete, h.stopped⟩

/-- The handle can only go away. -/
theorem sound_signal
    (h : Sound capacity redraws r) {signal : CancelSignal}
    (hsignal : signal = .live → r.feed.signal = .live) :
    Sound capacity redraws { r with feed := { r.feed with signal } } :=
  ⟨h.isAborted, h.count, h.redraws, h.events, h.inOrder,
    fun hcomplete => h.complete (hcomplete.imp_right hsignal), h.stopped⟩

/-- A turn of any length keeps the account. -/
theorem sound_take_turn (h : Sound capacity redraws r) (passes : Nat) :
    Sound capacity redraws (r.take (r.feed.turn passes)) := by
  obtain ⟨haborted, hcount, hcases⟩ := turn_cases h.isAborted passes
  generalize r.feed.turn passes = turn at haborted hcount hcases ⊢
  exact
    { isAborted := haborted
      count := by
        change turn.pipeline.handled = (r.handled ++ turn.events).length
        rw [hcount, h.count, List.length_append]
      redraws := by
        change refreshTimes turn.events.length r.feed.redraws =
          refreshTimes (r.handled ++ turn.events).length redraws
        rw [h.redraws, ← refreshTimes_add, List.length_append]
      events := by
        change r.feed.events.pushAll turn.events = _
        rw [h.events, ← EventLog.pushAll_append]
        rfl
      inOrder := by
        change r.handled ++ turn.events ++ (r.feed.after turn).stream.queue <+: r.accepted
        rcases hcases with ⟨hstops, he, -⟩ | ⟨-, he⟩
        · rw [(after_of_isStopped r.feed hstops).1, he, List.append_nil, List.append_nil]
          exact (List.prefix_append r.handled r.feed.stream.queue).trans h.inOrder
        · rw [List.append_assoc, he]
          exact h.inOrder
      complete := fun hheld => by
        change r.handled ++ turn.events ++ (r.feed.after turn).stream.queue = r.accepted
        rcases hcases with ⟨hstops, he, hwas⟩ | ⟨hgoes, he⟩
        · have hlive : r.feed.signal = .live := hheld.resolve_left fun hgoes => by
            rw [show (r.take turn).feed.pipeline = turn.pipeline from rfl, hstops] at hgoes
            cases hgoes
          have hstopped : r.feed.pipeline.isStopped = true := hwas.resolve_right fun hraised => by
            rw [hlive] at hraised
            cases hraised
          have hall := h.complete (.inr hlive)
          rw [(h.stopped hstopped).1] at hall
          rw [(after_of_isStopped r.feed hstops).1, he, List.append_nil]
          exact hall
        · rw [List.append_assoc, he]
          exact h.complete (.inl hgoes)
      stopped := after_of_isStopped r.feed }

theorem sound_settle (h : Sound capacity redraws r) :
    Sound capacity redraws (r.step .settle) := by
  rw [step_settle]
  exact sound_take_turn h _

theorem sound_join (h : Sound capacity redraws r) : Sound capacity redraws (r.step .join) := by
  have hs := sound_settle h
  rw [step_join]
  split
  · exact h
  · exact
      ⟨hs.isAborted, hs.count, hs.redraws, hs.events, hs.inOrder, hs.complete, hs.stopped⟩

theorem sound_step (h : Sound capacity redraws r) (move : Move) :
    Sound capacity redraws (r.step move) := by
  cases move with
  | send event => exact sound_send h event
  | endStream => exact sound_endStream h
  | cancel =>
      have hlive : r.feed.signal.cancel.2 = .live → r.feed.signal = .live := by
        cases r.feed.signal <;> simp [CancelSignal.cancel]
      exact sound_signal h hlive
  | abandon =>
      have hlive : r.feed.signal.abandon.2 = .live → r.feed.signal = .live := by
        cases r.feed.signal <;> simp [CancelSignal.abandon]
      exact sound_signal h hlive
  | turn passes => exact sound_take_turn h passes
  | settle => exact sound_settle h
  | join => exact sound_join h

theorem sound_foldl (h : Sound capacity redraws r) (moves : List Move) :
    Sound capacity redraws (moves.foldl step r) := by
  induction moves generalizing r with
  | nil => exact h
  | cons move moves ih => exact ih (sound_step h move)

/-- Every run of a feed keeps its account. -/
theorem sound_ofMoves (buffer capacity : Nat) (redraws : ρ) (moves : List Move) :
    Sound capacity redraws (ofMoves buffer capacity redraws moves) :=
  sound_foldl (sound_start buffer capacity redraws) moves

end Run

end ContainerBoard.Feed
