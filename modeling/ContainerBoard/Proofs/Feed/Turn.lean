import ContainerBoard.Feed

/-!
# Turns of a pipeline

A pipeline can be interrupted after any number of passes through its loop.
Each pass takes one event off the stream or finds that no more will come.  The
turn that settles a feed is the one that is long enough for all of that.
-/

namespace ContainerBoard

namespace EventLog

/-- The log keeps the newest events, newest first. -/
theorem recent_pushAll (log : EventLog) (events : List DaemonEvent) :
    (log.pushAll events).recent =
      (events.reverse ++ log.recent).take log.capacity := by
  induction events generalizing log with
  | nil => exact (List.take_of_length_le log.length_recent_le).symm
  | cons event events ih =>
      have hpush : (log.push event).recent = (event :: log.recent).take log.capacity := rfl
      have hcapacity : (log.push event).capacity = log.capacity := rfl
      change ((log.push event).pushAll events).recent = _
      rw [ih, hpush, hcapacity, List.reverse_cons, List.append_assoc, List.singleton_append,
        List.take_append, List.take_append, List.take_take,
        Nat.min_eq_left (Nat.sub_le _ _)]

theorem pushAll_append (log : EventLog) (events later : List DaemonEvent) :
    log.pushAll (events ++ later) = (log.pushAll events).pushAll later :=
  List.foldl_append

end EventLog

theorem refreshTimes_add {ρ : Type} [Refresh ρ] (m n : Nat) (redraws : ρ) :
    refreshTimes (m + n) redraws = refreshTimes n (refreshTimes m redraws) := by
  induction m generalizing redraws with
  | zero => simp [refreshTimes]
  | succ m ih =>
      rw [Nat.succ_add]
      exact ih (Refresh.refresh redraws)

namespace Pipeline

/-- What a turn can do, unless someone else stopped the pipeline: nothing after
it stopped, only stopping after a cancellation, and otherwise it handles all
that it is given. -/
theorem run_cases
    {pipeline : Pipeline} (haborted : pipeline.isAborted = false)
    (isCancelled hasEnded : Bool) (queue : List DaemonEvent) :
    let turn := pipeline.run isCancelled hasEnded queue
    turn.pipeline.isAborted = false ∧
      ((pipeline.isStopped = true ∧ turn.pipeline = pipeline ∧ turn.events = []) ∨
        (pipeline.isStopped = false ∧ isCancelled = true ∧
          turn.pipeline.isStopped = true ∧ turn.pipeline.handled = pipeline.handled ∧
          turn.events = []) ∨
        (pipeline.isStopped = false ∧ isCancelled = false ∧
          turn.pipeline.isStopped = hasEnded ∧
          turn.pipeline.handled = pipeline.handled + queue.length ∧
          turn.events = queue)) := by
  cases hstopped : pipeline.isStopped with
  | true => simp [run, hstopped, haborted]
  | false =>
      cases isCancelled with
      | true => simp [run, hstopped, haborted]
      | false => simp [run, hstopped, haborted]

/-- What stops a pipeline, and nothing else does. -/
theorem isStopped_run
    (pipeline : Pipeline) (isCancelled hasEnded : Bool) (queue : List DaemonEvent) :
    (pipeline.run isCancelled hasEnded queue).pipeline.isStopped =
      (pipeline.isStopped || pipeline.isAborted || isCancelled || hasEnded) := by
  unfold run
  cases hstopped : pipeline.isStopped with
  | true => simp [hstopped]
  | false =>
      cases pipeline.isAborted <;> cases isCancelled <;> simp

theorem isAborted_run
    (pipeline : Pipeline) (isCancelled hasEnded : Bool) (queue : List DaemonEvent) :
    (pipeline.run isCancelled hasEnded queue).pipeline.isAborted = pipeline.isAborted := by
  unfold run
  repeat' split
  all_goals rfl

theorem handled_run
    (pipeline : Pipeline) (isCancelled hasEnded : Bool) (queue : List DaemonEvent) :
    let turn := pipeline.run isCancelled hasEnded queue
    turn.pipeline.handled = pipeline.handled + turn.events.length := by
  unfold run
  repeat' split
  all_goals rfl

theorem events_run_of_cancelled
    (pipeline : Pipeline) (hasEnded : Bool) (queue : List DaemonEvent) :
    (pipeline.run true hasEnded queue).events = [] := by
  unfold run
  split
  · rfl
  · split <;> rfl

end Pipeline

namespace Feed

variable {ρ : Type}

/-- The turn of a pipeline that is interrupted after some passes through its
loop. -/
def turn (feed : Feed ρ) (passes : Nat) : Pipeline.Turn :=
  feed.pipeline.run feed.signal.isRaised
    (!feed.hasSender && feed.stream.queue.length < passes) (feed.stream.queue.take passes)

/-- The turn in which the pipeline comes to rest: it takes all events and then
finds out whether more will come. -/
abbrev longTurn (feed : Feed ρ) : Pipeline.Turn :=
  feed.turn (feed.stream.queue.length + 1)

theorem longTurn_eq (feed : Feed ρ) :
    feed.longTurn =
      feed.pipeline.run feed.signal.isRaised (!feed.hasSender) feed.stream.queue := by
  simp [turn, List.take_of_length_le]

/-- Once its handle is gone the pipeline handles no more events, however many
are on their way. -/
theorem events_turn_of_isRaised
    {feed : Feed ρ} (hraised : feed.signal.isRaised = true) (passes : Nat) :
    (feed.turn passes).events = [] := by
  rw [turn, hraised]
  exact Pipeline.events_run_of_cancelled _ _ _

/-- An event is accepted at the end of the queue, or nothing happens. -/
theorem send_cases (feed : Feed ρ) (event : DaemonEvent) :
    (feed.stream.isListening = true ∧
      feed.send event =
        (some true,
          { feed with
            stream := { feed.stream with queue := feed.stream.queue ++ [event] } })) ∨
    ((feed.send event).1 ≠ some true ∧ (feed.send event).2 = feed) := by
  by_cases hsender : feed.hasSender = true
  · by_cases hopen :
        (feed.stream.isListening && feed.stream.queue.length < feed.stream.capacity) = true
    · refine .inl ⟨(Bool.and_eq_true_iff.mp hopen).1, ?_⟩
      rw [send, if_pos hsender, EventStream.send, if_pos hopen]
    · refine .inr ?_
      rw [send, if_pos hsender, EventStream.send, if_neg hopen]
      exact ⟨by simp, rfl⟩
  · refine .inr ?_
    rw [send, if_neg hsender]
    exact ⟨by simp, rfl⟩

variable [Refresh ρ]

/-- What a turn leaves behind. -/
def after (feed : Feed ρ) (turn : Pipeline.Turn) : Feed ρ :=
  { feed with
    pipeline := turn.pipeline
    stream :=
      if turn.pipeline.isStopped then feed.stream.hangUp
      else { feed.stream with queue := feed.stream.queue.drop turn.events.length }
    events := feed.events.pushAll turn.events
    redraws := refreshTimes turn.events.length feed.redraws
    journal := turn.log.reverse ++ feed.journal }

theorem after_of_isStopped
    (feed : Feed ρ) {turn : Pipeline.Turn} (hstopped : turn.pipeline.isStopped = true) :
    (feed.after turn).stream.queue = [] ∧ (feed.after turn).stream.isListening = false := by
  simp [after, hstopped, EventStream.hangUp]

/-- A turn handles nothing, or what it handles is taken from the front of the
queue; it stops before the end of the queue only in the first case. -/
theorem turn_cases
    {feed : Feed ρ} (haborted : feed.pipeline.isAborted = false) (passes : Nat) :
    let turn := feed.turn passes
    turn.pipeline.isAborted = false ∧
      turn.pipeline.handled = feed.pipeline.handled + turn.events.length ∧
      ((turn.pipeline.isStopped = true ∧ turn.events = [] ∧
          (feed.pipeline.isStopped = true ∨ feed.signal.isRaised = true)) ∨
        (feed.pipeline.isStopped = false ∧
          turn.events ++ (feed.after turn).stream.queue = feed.stream.queue)) := by
  intro turn
  obtain ⟨hturn, hcases⟩ :=
    Pipeline.run_cases haborted feed.signal.isRaised
      (!feed.hasSender && feed.stream.queue.length < passes) (feed.stream.queue.take passes)
  rcases hcases with ⟨hstopped, hp, he⟩ | ⟨-, hraised, hs, hn, he⟩ | ⟨hgoes, -, hs, hn, he⟩
  · have hp' : turn.pipeline = feed.pipeline := hp
    have he' : turn.events = [] := he
    refine ⟨hturn, by simp [hp', he'], .inl ⟨?_, he', .inl hstopped⟩⟩
    rw [hp']
    exact hstopped
  · have hn' : turn.pipeline.handled = feed.pipeline.handled := hn
    have he' : turn.events = [] := he
    exact ⟨hturn, by simp [hn', he'], .inl ⟨hs, he', .inr hraised⟩⟩
  · have hn' : turn.pipeline.handled =
        feed.pipeline.handled + (feed.stream.queue.take passes).length := hn
    have he' : turn.events = feed.stream.queue.take passes := he
    have hs' : turn.pipeline.isStopped =
        (!feed.hasSender && feed.stream.queue.length < passes) := hs
    refine ⟨hturn, by rw [hn', he'], .inr ⟨hgoes, ?_⟩⟩
    cases hended : turn.pipeline.isStopped with
    | true =>
        rw [hended] at hs'
        have hpasses : feed.stream.queue.length < passes := by
          simpa using (Bool.and_eq_true_iff.mp hs'.symm).2
        rw [(after_of_isStopped feed hended).1, he', List.append_nil]
        exact List.take_of_length_le (Nat.le_of_lt hpasses)
    | false =>
        have hqueue : (feed.after turn).stream.queue =
            feed.stream.queue.drop turn.events.length := by
          simp [after, hended]
        rw [hqueue, he']
        rcases Nat.le_total passes feed.stream.queue.length with hle | hle
        · rw [List.length_take_of_le hle]
          exact List.take_append_drop _ _
        · rw [List.take_of_length_le hle, List.drop_length, List.append_nil]

theorem settle_eq (feed : Feed ρ) : feed.settle = feed.after feed.longTurn := by
  rw [longTurn_eq]
  unfold settle after
  by_cases hstopped : feed.pipeline.isStopped = true
  · simp [Pipeline.run, hstopped]
  · by_cases haborted : feed.pipeline.isAborted = true
    · simp [Pipeline.run, hstopped, haborted]
    · cases hraised : feed.signal.isRaised with
      | true => simp [Pipeline.run, hstopped, haborted]
      | false => simp [Pipeline.run, hstopped, haborted, EventStream.emptied]

/-- A pipeline comes to rest for good when its handle is gone or its stream has
ended. -/
theorem isStopped_settle
    {feed : Feed ρ} (haborted : feed.pipeline.isAborted = false)
    (h : feed.signal.isRaised = true ∨ feed.hasSender = false) :
    feed.settle.pipeline.isStopped = true := by
  rw [settle_eq]
  change feed.longTurn.pipeline.isStopped = true
  rw [longTurn_eq]
  obtain ⟨-, hcases⟩ :=
    Pipeline.run_cases haborted feed.signal.isRaised (!feed.hasSender) feed.stream.queue
  rcases hcases with ⟨hstopped, hp, -⟩ | ⟨-, -, hp, -⟩ | ⟨-, hlive, hp, -⟩
  · rw [hp]
    exact hstopped
  · exact hp
  · rw [hp]
    rcases h with hraised | hended
    · simp [hlive] at hraised
    · simp [hended]

/-- Waiting for the end gives the feed one turn, and then tells how many events
were handled if that was the end. -/
theorem join_eq (feed : Feed ρ) :
    feed.join =
      if feed.isJoined then (.already, feed)
      else
        (if feed.settle.pipeline.isStopped then .handled feed.settle.pipeline.handled
          else .timeout,
          { feed.settle with isJoined := true }) := rfl

end Feed

end ContainerBoard
