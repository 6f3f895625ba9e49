import ContainerBoard.Proofs.Feed.Run
import Mathlib.Data.List.Permutation

/-!
# The account of a feed

What a schedule guarantees.  Accepted events are handled once and in order until
the handle goes away, and then no more are.  The event log, the redraws and the
number given at the end count the same events.
-/

namespace ContainerBoard.Feed.Run

variable {ρ : Type} [Refresh ρ]

/-! ## Who is still there -/

theorem isRaised_step (r : Run ρ) (move : Move) :
    (r.step move).feed.signal.isRaised =
      (r.feed.signal.isRaised || move = .cancel || move = .abandon) := by
  cases move with
  | send event =>
      rcases r.feed.send_cases event with ⟨-, hsend⟩ | ⟨-, hsend⟩ <;> simp [step, hsend]
  | endStream => simp [step, endStream]
  | cancel =>
      have hraised : (r.step .cancel).feed.signal = r.feed.signal.cancel.2 := rfl
      rw [hraised]
      cases r.feed.signal <;> rfl
  | abandon =>
      have hraised : (r.step .abandon).feed.signal = r.feed.signal.abandon.2 := rfl
      rw [hraised]
      cases r.feed.signal <;> rfl
  | turn passes => simp [step, take, after]
  | settle => simp [step, settle_eq, after]
  | join =>
      rw [step_join]
      split <;> simp [settle_eq, after]

theorem hasSender_step (r : Run ρ) (move : Move) :
    (r.step move).feed.hasSender = (r.feed.hasSender && move ≠ .endStream) := by
  cases move with
  | send event =>
      rcases r.feed.send_cases event with ⟨-, hsend⟩ | ⟨-, hsend⟩ <;> simp [step, hsend]
  | endStream => simp [step, endStream]
  | cancel => simp [step, cancel]
  | abandon => simp [step, abandon]
  | turn passes => simp [step, take, after]
  | settle => simp [step, settle_eq, after]
  | join =>
      rw [step_join]
      split <;> simp [settle_eq, after]

theorem isRaised_foldl (r : Run ρ) (moves : List Move) :
    (moves.foldl step r).feed.signal.isRaised = true ↔
      r.feed.signal.isRaised = true ∨ .cancel ∈ moves ∨ .abandon ∈ moves := by
  induction moves generalizing r with
  | nil => simp
  | cons move moves ih =>
      rw [List.foldl_cons, ih, isRaised_step]
      simp only [Bool.or_eq_true, decide_eq_true_eq, List.mem_cons, eq_comm (a := move),
        or_assoc, or_left_comm]

theorem hasSender_foldl (r : Run ρ) (moves : List Move) :
    (moves.foldl step r).feed.hasSender = true ↔
      r.feed.hasSender = true ∧ .endStream ∉ moves := by
  induction moves generalizing r with
  | nil => simp
  | cons move moves ih =>
      simp only [List.foldl_cons, ih, hasSender_step, List.mem_cons, not_or,
        Bool.and_eq_true, decide_eq_true_eq, and_assoc, ne_comm]

theorem isRaised_ofMoves (buffer capacity : Nat) (redraws : ρ) (moves : List Move) :
    (ofMoves buffer capacity redraws moves).feed.signal.isRaised = true ↔
      .cancel ∈ moves ∨ .abandon ∈ moves := by
  rw [ofMoves, isRaised_foldl]
  simp [start, CancelSignal.isRaised]

theorem hasSender_ofMoves (buffer capacity : Nat) (redraws : ρ) (moves : List Move) :
    (ofMoves buffer capacity redraws moves).feed.hasSender = true ↔ .endStream ∉ moves := by
  rw [ofMoves, hasSender_foldl]
  simp [start]

/-! ## No event after the handle is gone -/

theorem handled_step_of_isRaised
    {r : Run ρ} (hraised : r.feed.signal.isRaised = true) (move : Move) :
    (r.step move).handled = r.handled := by
  have hturn := events_turn_of_isRaised hraised
  cases move with
  | turn passes => simp [step, take, hturn]
  | settle => simp [step, hturn]
  | join => simp [step, hturn]
  | _ => rfl

theorem handled_foldl_of_isRaised
    {r : Run ρ} (hraised : r.feed.signal.isRaised = true) (moves : List Move) :
    (moves.foldl step r).handled = r.handled := by
  induction moves generalizing r with
  | nil => rfl
  | cons move moves ih =>
      have hstep : (r.step move).feed.signal.isRaised = true := by
        rw [isRaised_step, hraised]
        rfl
      rw [List.foldl_cons, ih hstep, handled_step_of_isRaised hraised]

/-! ## The end -/

/-- A pipeline that stopped with its handle held has handled everything. -/
theorem Sound.handled_eq_accepted
    {capacity : Nat} {redraws : ρ} {r : Run ρ} (h : Sound capacity redraws r)
    (hstopped : r.feed.pipeline.isStopped = true) (hlive : r.feed.signal = .live) :
    r.handled = r.accepted := by
  have hall := h.complete (.inr hlive)
  rwa [(h.stopped hstopped).1, List.append_nil] at hall

/-- Waiting for the end gives the number of events handled by then, if that is
the end. -/
theorem Sound.join
    {capacity : Nat} {redraws : ρ} {r : Run ρ} (h : Sound capacity redraws r) :
    r.feed.join.1 =
      if r.feed.isJoined then .already
      else if (r.step .join).feed.pipeline.isStopped then
        .handled (r.step .join).handled.length
      else .timeout := by
  rw [join_eq, step_join]
  cases r.feed.isJoined with
  | true => rfl
  | false =>
      have hcount : r.feed.settle.pipeline.handled = (r.step .settle).handled.length :=
        (sound_settle h).count
      simp [hcount]

/-- Every schedule of a feed keeps its account.  The handled events are accepted
events in order; as many redraws were asked for, the same events went to the log,
and the number given at the end is theirs.  After the handle is gone no event is
handled.  A pipeline that stops with its handle held has handled every accepted
event, and it does stop when its stream has ended. -/
theorem ofMoves_accounting
    (buffer capacity : Nat) (redraws : ρ) (moves : List Move) :
    let r := ofMoves buffer capacity redraws moves
    r.handled <+: r.accepted ∧
    r.feed.pipeline.handled = r.handled.length ∧
    r.feed.redraws = refreshTimes r.handled.length redraws ∧
    r.feed.events = (EventLog.ofCapacity capacity).pushAll r.handled ∧
    r.feed.events.recent = r.handled.reverse.take (min capacity r.handled.length) ∧
    (r.feed.join.1 =
      if r.feed.isJoined then .already
      else if (r.step .join).feed.pipeline.isStopped then
        .handled (r.step .join).handled.length
      else .timeout) ∧
    (.cancel ∈ moves ∨ .abandon ∈ moves → ∀ later,
      (ofMoves buffer capacity redraws (moves ++ later)).handled = r.handled) ∧
    (.cancel ∉ moves → .abandon ∉ moves →
      (r.feed.pipeline.isStopped = true → r.handled = r.accepted) ∧
      (.endStream ∈ moves →
        (r.step .settle).feed.pipeline.isStopped = true ∧
          (r.step .settle).handled = r.accepted)) := by
  intro r
  have hsound : Sound capacity redraws r := sound_ofMoves buffer capacity redraws moves
  refine ⟨?_, hsound.count, hsound.redraws, hsound.events, ?_, hsound.join, ?_, ?_⟩
  · exact (List.prefix_append r.handled r.feed.stream.queue).trans hsound.inOrder
  · rw [hsound.events, EventLog.recent_pushAll]
    change (r.handled.reverse ++ []).take capacity = _
    rw [List.append_nil, ← List.length_reverse, List.take_eq_take_min]
  · intro hgone later
    rw [ofMoves_append]
    exact handled_foldl_of_isRaised ((isRaised_ofMoves _ _ _ _).mpr hgone) later
  · intro hcancel habandon
    have hlive : r.feed.signal = .live := by
      have hraised : ¬ r.feed.signal.isRaised = true := fun hraised =>
        ((isRaised_ofMoves _ _ _ _).mp hraised).elim hcancel habandon
      cases hsignal : r.feed.signal with
      | live => rfl
      | cancelled => simp [hsignal, CancelSignal.isRaised] at hraised
      | abandoned => simp [hsignal, CancelSignal.isRaised] at hraised
    refine ⟨fun hstopped => hsound.handled_eq_accepted hstopped hlive, ?_⟩
    intro hended
    have hsender : r.feed.hasSender = false :=
      Bool.eq_false_iff.mpr fun hsender => (hasSender_ofMoves _ _ _ _).mp hsender hended
    have hstopped : (r.step .settle).feed.pipeline.isStopped = true :=
      isStopped_settle hsound.isAborted (.inr hsender)
    exact ⟨hstopped, (sound_settle hsound).handled_eq_accepted hstopped hlive⟩

/-- Of two events that found room, both are handled when the stream ends, and
only the first when the handle is used after it; the log has room for one. -/
theorem account_of_ended_and_cancelled :
    let event (actor : String) : DaemonEvent :=
      { kind := "container", action := "start", actor, time := .epoch }
    let sent : List Move :=
      [.send (event "one"), .send (event "two"), .send (event "three"), .turn 1]
    let ended := (ofMoves 2 1 ({} : RedrawCount) (sent ++ [.endStream])).step .settle
    let cancelled := ofMoves 2 1 ({} : RedrawCount) ((sent ++ [.cancel]) ++ [.settle])
    ended.accepted = [event "one", event "two"] ∧ ended.handled = ended.accepted ∧
      ended.feed.redraws.count = 2 ∧ ended.feed.events.recent = [event "two"] ∧
      cancelled.accepted = [event "one", event "two"] ∧
      cancelled.handled = [event "one"] ∧ cancelled.feed.redraws.count = 1 := by
  intro event sent ended cancelled
  obtain ⟨-, -, -, -, -, -, -, hlive⟩ :=
    ofMoves_accounting 2 1 ({} : RedrawCount) (sent ++ [.endStream])
  obtain ⟨-, hended⟩ := hlive (by decide) (by decide)
  obtain ⟨-, -, -, -, -, -, hgone, -⟩ :=
    ofMoves_accounting 2 1 ({} : RedrawCount) (sent ++ [.cancel])
  have hcancelled := hgone (by decide) [.settle]
  refine ⟨?_, (hended (by decide)).2, ?_, ?_, ?_, ?_, ?_⟩
  · cbv
  · cbv
  · cbv
  · cbv
  · exact hcancelled
  · cbv

end ContainerBoard.Feed.Run
