import ContainerBoard.Proofs.Dashboard.Action
import ContainerBoard.Proofs.Feed.Turn

/-!
# The only subscriber

A dashboard whose daemon has no other subscriber.  Its handle is gone exactly if it was
closed.  The daemon finds that out when it looks; then it lets go of its sender, and no
event is accepted any more.
-/

namespace ContainerBoard

/-- Who uses a handle releases whoever watches it. -/
theorem CancelSignal.isRaised_cancel (signal : CancelSignal) :
    signal.cancel.2.isRaised = true := by
  cases signal <;> rfl

namespace Dashboard

variable {ρ : Type}

/-- The dashboard is the only subscriber of its daemon.  Its handle is gone exactly if the
dashboard is closed, and the daemon sends to it until it has noticed that. -/
structure Holds (b : Dashboard ρ) (s : Subscription) : Prop where
  place : b.subscription = 0
  subscriptions : b.daemon.subscriptions = [s]
  raised : s.signal.isRaised = b.isClosed
  released : s.isReleased = true → b.isClosed = true
  sender : b.daemon.sender = if s.isReleased then none else some 0

/-- The daemon notices whether the handle is gone. -/
def observe (b : Dashboard ρ) : Dashboard ρ :=
  { b with daemon := b.daemon.observe }

/-- The turn that the pipeline has. -/
def turn (b : Dashboard ρ) : Pipeline.Turn :=
  b.pipeline.run b.ownSubscription.signal.isRaised (b.daemon.hasEnded b.subscription)
    b.ownSubscription.stream.queue

variable {b b' : Dashboard ρ} {s : Subscription}

theorem Holds.of_lifecycle (h : b.Holds s) (hlife : b'.lifecycle = b.lifecycle) :
    b'.Holds s where
  place := (congrArg Lifecycle.subscription hlife).trans h.place
  subscriptions := (congrArg Lifecycle.subscriptions hlife).trans h.subscriptions
  raised := h.raised.trans (congrArg Lifecycle.isClosed hlife).symm
  released hreleased := (congrArg Lifecycle.isClosed hlife).trans (h.released hreleased)
  sender := (congrArg Lifecycle.sender hlife).trans h.sender

theorem Holds.ownSubscription (h : b.Holds s) : b.ownSubscription = s := by
  simp [Dashboard.ownSubscription, h.place, h.subscriptions]

theorem Holds.subscriptions_atSubscription
    (h : b.Holds s) (change : Subscription → Subscription) :
    (b.daemon.atSubscription b.subscription change).subscriptions = [change s] := by
  simp [Daemon.atSubscription, h.place, h.subscriptions]

/-- The stream may change as it likes. -/
theorem Holds.atStream
    (h : b.Holds s) {d : Daemon} {stream : EventStream}
    (hsubscriptions : d.subscriptions = [{ s with stream }])
    (hsender : d.sender = b.daemon.sender) :
    { b with daemon := d }.Holds { s with stream } where
  place := h.place
  subscriptions := hsubscriptions
  raised := h.raised
  released := h.released
  sender := hsender.trans h.sender

/-- An event may go to the stream. -/
theorem Holds.inject (h : b.Holds s) (event : DaemonEvent) :
    ∃ stream, { b with daemon := (b.daemon.inject event).2 }.Holds { s with stream } := by
  have hsender := h.sender
  by_cases hreleased : s.isReleased = true
  · rw [if_pos hreleased] at hsender
    refine ⟨s.stream, h.atStream ?_ ?_⟩
    · simp [Daemon.inject, hsender, h.subscriptions]
    · simp [Daemon.inject, hsender]
  · rw [if_neg hreleased] at hsender
    refine ⟨(s.stream.send event).2, h.atStream ?_ ?_⟩
    · simp [Daemon.inject, Daemon.atSubscription, hsender, h.subscriptions]
    · simp [Daemon.inject, Daemon.atSubscription, hsender, h.subscriptions]

/-- Once the daemon has looked, it has let go of the sender exactly if the dashboard is
closed. -/
theorem Holds.observe (h : b.Holds s) : b.observe.Holds { s with isReleased := b.isClosed } := by
  obtain ⟨stream, signal, isReleased⟩ := s
  have hraised : signal.isRaised = b.isClosed := h.raised
  have hsender : b.daemon.sender = if isReleased then none else some 0 := h.sender
  have hobserved : b.daemon.observe.subscriptions = [⟨stream, signal, b.isClosed⟩] ∧
      b.daemon.observe.sender = if b.isClosed then none else some 0 := by
    unfold Daemon.observe Daemon.isUnnoticed
    -- only a handle that is gone is found out, and only once
    cases isReleased with
    | true =>
        have hclosed : b.isClosed = true := h.released rfl
        simp [h.subscriptions, hsender, hclosed]
    | false =>
        cases hclosed : b.isClosed with
        | true => simp [h.subscriptions, hraised, hclosed]
        | false => simp [h.subscriptions, hraised, hsender, hclosed]
  exact
    { place := h.place
      subscriptions := hobserved.1
      raised := hraised
      released := fun hclosed => hclosed
      sender := hobserved.2 }

/-- The daemon sends nothing to a closed dashboard once it has looked. -/
theorem Holds.inject_of_released
    (h : b.Holds s) (hreleased : s.isReleased = true) (event : DaemonEvent) :
    b.daemon.inject event = (false, b.daemon) := by
  have hsender := h.sender
  rw [if_pos hreleased] at hsender
  simp [Daemon.inject, hsender]

theorem Holds.releases (h : b.Holds s) :
    b.daemon.releases = if s.isReleased then 1 else 0 := by
  rw [Daemon.releases, h.subscriptions]
  cases hreleased : s.isReleased <;> simp [hreleased]

/-! ## Closing -/

theorem isClosed_close (b : Dashboard ρ) : b.close.isClosed = true := by
  unfold close
  split
  · assumption
  · rfl

theorem isJoined_close (b : Dashboard ρ) : b.close.isJoined = b.isJoined := by
  unfold close
  split <;> rfl

theorem drop_frame (b : Dashboard ρ) :
    b.drop.isClosed = true ∧ b.drop.isJoined = b.isJoined := by
  unfold Dashboard.drop
  dsimp only
  split
  · exact ⟨b.isClosed_close, b.isJoined_close⟩
  · exact ⟨b.isClosed_close, b.isJoined_close⟩

/-- Closing again only leaves a line in the log. -/
theorem close_of_isClosed (hclosed : b.isClosed = true) :
    b.close = b.log [.debug "Dashboard already closed"] :=
  if_pos hclosed

/-- Closing uses the handle. -/
theorem Holds.close (h : b.Holds s) : ∃ signal, b.close.Holds { s with signal } := by
  unfold Dashboard.close
  by_cases hclosed : b.isClosed = true
  · rw [if_pos hclosed]
    exact ⟨s.signal, h.of_lifecycle rfl⟩
  · rw [if_neg hclosed]
    refine ⟨s.signal.cancel.2, h.place, ?_, s.signal.isRaised_cancel, fun _ => rfl, ?_⟩
    · simp [Daemon.cancel, Daemon.atSubscription, h.place, h.subscriptions]
    · have hsender : (b.daemon.cancel b.subscription).2.sender = b.daemon.sender := by
        simp [Daemon.cancel, Daemon.atSubscription, h.place, h.subscriptions]
      exact hsender.trans h.sender

/-! ## Turns of the background work -/

/-- The events that the background work handles. -/
def newEvents (b : Dashboard ρ) : List DaemonEvent :=
  b.observe.turn.events

/-- Nothing is handled after a closing. -/
theorem Holds.newEvents_of_isClosed (h : b.Holds s) (hclosed : b.isClosed = true) :
    b.newEvents = [] := by
  have hraised : b.observe.ownSubscription.signal.isRaised = true := by
    rw [h.observe.ownSubscription]
    exact h.raised.trans hclosed
  rw [newEvents, turn, hraised]
  exact Pipeline.events_run_of_cancelled _ _ _

variable [Refresh ρ]

/-- The background work adds new events to the log and asks for one redraw each. -/
theorem settle_eq (b : Dashboard ρ) :
    b.settle.pipeline = b.observe.turn.pipeline ∧
      b.settle.events = b.events.pushAll b.newEvents ∧
      b.settle.redraws = refreshTimes b.newEvents.length b.redraws := by
  unfold settle runPipeline newEvents
  by_cases hstopped : b.pipeline.isStopped = true
  · have hturn : b.observe.turn = ⟨b.pipeline, [], []⟩ := by
      rw [turn, Pipeline.run]
      exact if_pos hstopped
    rw [if_pos hstopped, hturn]
    exact ⟨rfl, rfl, rfl⟩
  · rw [if_neg hstopped]
    exact ⟨rfl, rfl, rfl⟩

theorem handled_settle (b : Dashboard ρ) :
    b.settle.pipeline.handled = b.pipeline.handled + b.newEvents.length := by
  rw [b.settle_eq.1]
  exact Pipeline.handled_run _ _ _ _

theorem isAborted_settle (b : Dashboard ρ) :
    b.settle.pipeline.isAborted = b.pipeline.isAborted := by
  rw [b.settle_eq.1]
  exact Pipeline.isAborted_run _ _ _ _

theorem Holds.runPipeline (h : b.Holds s) :
    ∃ stream, b.runPipeline.Holds { s with stream } := by
  unfold Dashboard.runPipeline
  by_cases hstopped : b.pipeline.isStopped = true
  · rw [if_pos hstopped]
    exact ⟨s.stream, h⟩
  · rw [if_neg hstopped]
    let stream := if b.turn.pipeline.isStopped then s.stream.hangUp else s.stream.emptied
    exact ⟨stream, h.place, h.subscriptions_atSubscription _, h.raised, h.released, h.sender⟩

/-- What the background work leaves of the subscription: the daemon has looked. -/
theorem Holds.settle (h : b.Holds s) :
    ∃ stream, b.settle.Holds { s with stream, isReleased := b.isClosed } :=
  h.observe.runPipeline

/-- The background work neither closes a dashboard nor talks to its user. -/
theorem settle_frame (b : Dashboard ρ) :
    b.settle.isClosed = b.isClosed ∧ b.settle.isJoined = b.isJoined ∧
      b.settle.outbox = b.outbox := by
  unfold settle runPipeline
  by_cases hstopped : b.pipeline.isStopped = true
  · rw [if_pos hstopped]
    exact ⟨rfl, rfl, rfl⟩
  · rw [if_neg hstopped]
    exact ⟨rfl, rfl, rfl⟩

/-- When the background work is done, the pipeline has stopped if it was told to, or if
the dashboard is closed, and otherwise it goes on. -/
theorem Holds.isStopped_settle (h : b.Holds s) :
    b.settle.pipeline.isStopped =
      (b.pipeline.isStopped || b.pipeline.isAborted || b.isClosed) := by
  have hobserved := h.observe
  have hraised : b.observe.ownSubscription.signal.isRaised = b.isClosed := by
    rw [hobserved.ownSubscription]
    exact h.raised
  have hended : b.observe.daemon.hasEnded b.observe.subscription = b.isClosed := by
    rw [Daemon.hasEnded, hobserved.sender, hobserved.place]
    cases b.isClosed <;> rfl
  rw [b.settle_eq.1, turn, Pipeline.isStopped_run, hraised, hended, Bool.or_assoc, Bool.or_self]
  rfl

/-- Who waits for the end of the pipeline first lets the background work be done. -/
theorem join_eq (b : Dashboard ρ) :
    b.join =
      if b.isJoined then (.already, b)
      else
        (if b.settle.pipeline.isStopped then .handled b.settle.pipeline.handled else .timeout,
          { b.settle with isJoined := true }) := rfl

end Dashboard

end ContainerBoard
