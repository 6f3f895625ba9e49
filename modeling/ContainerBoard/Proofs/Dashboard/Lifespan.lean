import ContainerBoard.Proofs.Dashboard.Subscriber

/-!
# The life of a dashboard

A life is any sequence of operations, of events and failures at the daemon, of steps
of the clock and turns of the background work, with the end of the dashboard wherever
it comes.  Next to the dashboard it remembers the events that the pipeline handled.

The main result is that every life is sound.  The dashboard stays the only subscriber
of its daemon, the outbox is closed with it, and only then does the pipeline stop.  The
event log holds what the pipeline handled.
-/

namespace ContainerBoard

/-! ## The consumer of the outbox -/

/-- What the consumer of an outbox does. -/
inductive Consumption where
  | poll
  | abandon
  | tryReceive
  | drain
  | dropReceiver
  deriving DecidableEq

namespace Outbox

/-- What the consumer leaves. -/
def consume (box : Outbox) : Consumption → Outbox
  | .poll => box.poll.2
  | .abandon => box.abandon
  | .tryReceive => box.tryReceive.2
  | .drain => box.drain.2
  | .dropReceiver => box.dropReceiver

/-- The consumer neither closes an outbox nor opens it again. -/
theorem isClosed_consume (box : Outbox) (consumption : Consumption) :
    (box.consume consumption).isClosed = box.isClosed := by
  cases consumption with
  | poll => exact box.isClosed_poll
  | abandon => exact box.isClosed_abandon
  | tryReceive => exact box.isClosed_tryReceive
  | drain => rfl
  | dropReceiver => exact box.isClosed_abandon

end Outbox

namespace Dashboard

variable {ρ : Type}

/-- What happens to a dashboard and its daemon. -/
inductive Move where
  | act (action : Action)
  | consume (consumption : Consumption)
  | inject (event : DaemonEvent)
  | fail (operation : Operation) (error : DaemonError)
  | clearFailure (operation : Operation)
  /-- Time passes, and the janitor has its turn. -/
  | elapse (time : Nat)
  /-- All background work is done. -/
  | settle
  | close
  | join
  | drop
  deriving DecidableEq

/-- A dashboard with what became of it so far. -/
structure Life (ρ : Type) where
  board : Dashboard ρ
  isDropped : Bool := false
  /-- Whether the background work was done since the dashboard was closed. -/
  isReleased : Bool := false
  /-- The events that the pipeline handled, oldest first. -/
  handled : List DaemonEvent := []

namespace Life

/-- Does something with the dashboard, as long as it is there. -/
def use (l : Life ρ) (operation : Dashboard ρ → Dashboard ρ) : Life ρ :=
  if l.isDropped then l else { l with board := operation l.board }

/-- Does something with the daemon. -/
def atDaemon (l : Life ρ) (change : Daemon → Daemon) : Life ρ :=
  { l with board := { l.board with daemon := change l.board.daemon } }

/-! ## Soundness -/

/-- What holds in every life. -/
structure Sound (l : Life ρ) : Prop where
  holds : ∃ s, l.board.Holds s ∧ s.isReleased = l.isReleased
  outbox : l.board.outbox.isClosed = l.board.isClosed
  count : l.board.pipeline.handled = l.handled.length
  events : l.board.events = (default : EventLog).pushAll l.handled
  /-- Only a dashboard that went away stops its pipeline without a word. -/
  aborted : l.board.pipeline.isAborted = true → l.isDropped = true
  stopped : l.board.pipeline.isStopped = true → l.board.isClosed = true
  dropped : l.isDropped = true → l.board.isClosed = true

/-- What leaves the lifecycle alone keeps a life sound. -/
theorem Sound.of_lifecycle
    {l : Life ρ} {board : Dashboard ρ} (h : l.Sound)
    (hlife : board.lifecycle = l.board.lifecycle) : Sound { l with board } where
  holds := h.holds.imp fun _ hs => ⟨hs.1.of_lifecycle hlife, hs.2⟩
  outbox := (congrArg Lifecycle.isOutboxClosed hlife).trans
    (h.outbox.trans (congrArg Lifecycle.isClosed hlife).symm)
  count := (congrArg (fun life => life.pipeline.handled) hlife).trans h.count
  events := (congrArg Lifecycle.events hlife).trans h.events
  aborted haborted :=
    h.aborted ((congrArg (fun life => life.pipeline.isAborted) hlife).symm.trans haborted)
  stopped hstopped := (congrArg Lifecycle.isClosed hlife).trans
    (h.stopped ((congrArg (fun life => life.pipeline.isStopped) hlife).symm.trans hstopped))
  dropped hdropped := (congrArg Lifecycle.isClosed hlife).trans (h.dropped hdropped)

/-- Who uses the dashboard only has to care for a dashboard that is still there. -/
theorem Sound.use
    {l : Life ρ} (h : l.Sound) {operation : Dashboard ρ → Dashboard ρ}
    (hoperation : Sound { l with board := operation l.board }) : (l.use operation).Sound := by
  unfold Life.use
  split
  · exact h
  · exact hoperation

/-- A dashboard that was just opened on a daemon without subscribers. -/
theorem sound_start
    {daemon : Daemon} {redraws : ρ} {config : Config} {b : Dashboard ρ}
    (hstart : start daemon redraws config = .ok b) (hnew : daemon.subscriptions = []) :
    Sound { board := b } := by
  have hlife := lifecycle_start hstart
  rw [hnew] at hlife
  have hclosed : b.isClosed = false := congrArg Lifecycle.isClosed hlife
  have hpipeline : b.pipeline = {} := congrArg Lifecycle.pipeline hlife
  have hholds : b.Holds { stream := { capacity := Daemon.streamCapacity } } :=
    { place := congrArg Lifecycle.subscription hlife
      subscriptions := congrArg Lifecycle.subscriptions hlife
      raised := hclosed.symm
      released := fun h => by cases h
      sender := congrArg Lifecycle.sender hlife }
  exact
    { holds := ⟨_, hholds, rfl⟩
      outbox := (congrArg Lifecycle.isOutboxClosed hlife).trans hclosed.symm
      count := congrArg Pipeline.handled hpipeline
      events := congrArg Lifecycle.events hlife
      aborted := fun h => by simp [hpipeline] at h
      stopped := fun h => by simp [hpipeline] at h
      dropped := fun h => by cases h }

theorem sound_close {l : Life ρ} (h : l.Sound) : Sound { l with board := l.board.close } := by
  obtain ⟨s, hs, hreleased⟩ := h.holds
  obtain ⟨signal, hclose⟩ := hs.close
  by_cases hclosed : l.board.isClosed = true
  · rw [close_of_isClosed hclosed]
    exact h.of_lifecycle rfl
  · unfold Dashboard.close at hclose ⊢
    rw [if_neg hclosed] at hclose ⊢
    exact ⟨⟨_, hclose, hreleased⟩, rfl, h.count, h.events, h.aborted, fun _ => rfl,
      fun _ => rfl⟩

variable [Refresh ρ]

def work (l : Life ρ) : Life ρ :=
  { l with
    board := l.board.settle
    isReleased := l.board.isClosed
    handled := l.handled ++ l.board.newEvents }

/-- Makes a move.  Without the dashboard only its daemon, the consumer and the
background work go on. -/
def step (l : Life ρ) : Move → Life ρ
  | .act action => l.use fun b => b.act action
  | .consume consumption =>
    { l with board := { l.board with outbox := l.board.outbox.consume consumption } }
  | .inject event => l.atDaemon fun d => (d.inject event).2
  | .fail operation error => l.atDaemon fun d => d.fail operation error
  | .clearFailure operation => l.atDaemon fun d => d.clearFailure operation
  | .elapse time =>
    { l with board := { l.board with clock := l.board.clock + time }.runJanitor }
  | .settle => l.work
  | .close => l.use fun b => b.close
  | .join =>
    if l.isDropped || l.board.isJoined then l
    else { l.work with board := l.board.join.2 }
  | .drop => { l.use fun b => b.drop with isDropped := true }

def ofMoves (b : Dashboard ρ) (moves : List Move) : Life ρ :=
  moves.foldl step { board := b }

theorem ofMoves_append (b : Dashboard ρ) (moves later : List Move) :
    ofMoves b (moves ++ later) = later.foldl step (ofMoves b moves) :=
  List.foldl_append

/-- Who waits for the pipeline too late changes nothing.  The first who waits lets the
background work be done. -/
theorem step_join_cases (l : Life ρ) :
    (l.isDropped || l.board.isJoined) = true ∧ l.step .join = l ∨
      (l.isDropped || l.board.isJoined) = false ∧
        l.step .join = { l.work with board := { l.board.settle with isJoined := true } } := by
  cases hlate : l.isDropped || l.board.isJoined with
  | true => exact .inl ⟨rfl, if_pos hlate⟩
  | false =>
      have hstep : l.step .join = { l.work with board := l.board.join.2 } :=
        if_neg (Bool.eq_false_iff.mp hlate)
      have hjoined : l.board.isJoined = false := (Bool.or_eq_false_iff.mp hlate).2
      refine .inr ⟨rfl, ?_⟩
      rw [hstep, join_eq, hjoined]
      rfl

variable {l : Life ρ}

theorem sound_consume (h : l.Sound) (consumption : Consumption) :
    (l.step (.consume consumption)).Sound := by
  have hclosed : (l.board.outbox.consume consumption).isClosed = l.board.outbox.isClosed :=
    l.board.outbox.isClosed_consume consumption
  apply h.of_lifecycle
  unfold lifecycle
  rw [hclosed]

theorem sound_inject (h : l.Sound) (event : DaemonEvent) : (l.step (.inject event)).Sound := by
  obtain ⟨s, hs, hreleased⟩ := h.holds
  obtain ⟨stream, hinject⟩ := hs.inject event
  exact ⟨⟨_, hinject, hreleased⟩, h.outbox, h.count, h.events, h.aborted, h.stopped, h.dropped⟩

theorem sound_elapse (h : l.Sound) (time : Nat) : (l.step (.elapse time)).Sound := by
  obtain ⟨s, hs, hreleased⟩ := h.holds
  have hholds : (l.step (.elapse time)).board.Holds s :=
    ⟨hs.place, hs.subscriptions, hs.raised, hs.released, hs.sender⟩
  exact ⟨⟨s, hholds, hreleased⟩, h.outbox, h.count, h.events, h.aborted, h.stopped, h.dropped⟩

/-- The background work keeps the account of what it handles. -/
theorem sound_work (h : l.Sound) : l.work.Sound := by
  obtain ⟨s, hs, -⟩ := h.holds
  obtain ⟨stream, hsettle⟩ := hs.settle
  obtain ⟨hclosed, -, houtbox⟩ := l.board.settle_frame
  obtain ⟨-, hevents, -⟩ := l.board.settle_eq
  exact
    { holds := ⟨_, hsettle, rfl⟩
      outbox := by
        change l.board.settle.outbox.isClosed = l.board.settle.isClosed
        rw [houtbox, hclosed, h.outbox]
      count := by
        change l.board.settle.pipeline.handled = (l.handled ++ l.board.newEvents).length
        rw [handled_settle, h.count, List.length_append]
      events := by
        change l.board.settle.events =
          (default : EventLog).pushAll (l.handled ++ l.board.newEvents)
        rw [hevents, h.events, EventLog.pushAll_append]
      aborted := fun haborted => h.aborted (l.board.isAborted_settle.symm.trans haborted)
      stopped := fun hstopped => by
        change l.board.settle.pipeline.isStopped = true at hstopped
        change l.board.settle.isClosed = true
        rw [hs.isStopped_settle, Bool.or_eq_true, Bool.or_eq_true] at hstopped
        rw [hclosed]
        -- it had stopped before, the dashboard is gone, or the handle was used
        rcases hstopped with (hstopped | haborted) | hclosed
        · exact h.stopped hstopped
        · exact h.dropped (h.aborted haborted)
        · exact hclosed
      dropped := fun hdropped => hclosed.trans (h.dropped hdropped) }

theorem sound_join (h : l.Sound) : (l.step .join).Sound := by
  rcases l.step_join_cases with ⟨-, hstep⟩ | ⟨-, hstep⟩
  · rw [hstep]
    exact h
  · have hwork := sound_work h
    obtain ⟨s, hs, hreleased⟩ := hwork.holds
    have hholds : { l.board.settle with isJoined := true }.Holds s :=
      ⟨hs.place, hs.subscriptions, hs.raised, hs.released, hs.sender⟩
    rw [hstep]
    exact ⟨⟨s, hholds, hreleased⟩, hwork.outbox, hwork.count, hwork.events, hwork.aborted,
      hwork.stopped, hwork.dropped⟩

theorem sound_drop (h : l.Sound) : (l.step .drop).Sound := by
  have hclose := sound_close h
  have hclosed : l.board.close.isClosed = true := l.board.isClosed_close
  obtain ⟨s, hs, hreleased⟩ := hclose.holds
  by_cases hgone : l.isDropped = true
  · rw [step, use, if_pos hgone]
    exact ⟨h.holds, h.outbox, h.count, h.events, fun _ => rfl, h.stopped,
      fun _ => h.dropped hgone⟩
  · rw [step, use, if_neg hgone, Dashboard.drop]
    split
    · exact ⟨⟨s, hs, hreleased⟩, hclose.outbox, hclose.count, hclose.events, fun _ => rfl,
        hclose.stopped, fun _ => hclosed⟩
    · have hholds : { l.board.close with pipeline := l.board.close.pipeline.abort }.Holds s :=
        ⟨hs.place, hs.subscriptions, hs.raised, hs.released, hs.sender⟩
      exact ⟨⟨s, hholds, hreleased⟩, hclose.outbox, hclose.count, hclose.events, fun _ => rfl,
        hclose.stopped, fun _ => hclosed⟩

/-- Every move keeps a life sound. -/
theorem sound_step (h : l.Sound) (move : Move) : (l.step move).Sound := by
  cases move with
  | act action =>
      change (l.use fun b => b.act action).Sound
      exact h.use (h.of_lifecycle (l.board.lifecycle_act action))
  | consume consumption => exact sound_consume h consumption
  | inject event => exact sound_inject h event
  | fail operation error => exact h.of_lifecycle rfl
  | clearFailure operation => exact h.of_lifecycle rfl
  | elapse time => exact sound_elapse h time
  | settle => exact sound_work h
  | close =>
      change (l.use fun b => b.close).Sound
      exact h.use (sound_close h)
  | join => exact sound_join h
  | drop => exact sound_drop h

theorem sound_foldl (h : l.Sound) (moves : List Move) : (moves.foldl step l).Sound := by
  induction moves generalizing l with
  | nil => exact h
  | cons move moves ih => exact ih (sound_step h move)

/-- Every life of a new dashboard is sound. -/
theorem sound_ofMoves
    {daemon : Daemon} {redraws : ρ} {config : Config} {b : Dashboard ρ}
    (hstart : start daemon redraws config = .ok b) (hnew : daemon.subscriptions = [])
    (moves : List Move) : (ofMoves b moves).Sound :=
  sound_foldl (sound_start hstart hnew) moves

end Life

end Dashboard

end ContainerBoard
