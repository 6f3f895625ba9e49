import ContainerBoard.Proofs.Dashboard.Reporting
import ContainerBoard.Proofs.Outbox.Parked

/-!
# What a waiting consumer receives of an action

An action offers its announcement and its outcome in a row, and the consumer has
its turn only after both.  So a consumer that waited receives the announcement,
and the outcome as well if the outbox has room for one message.
-/

namespace ContainerBoard

/-- How the outcome of an action is reported after the daemon was asked. -/
def Mutation.report (m : Mutation) (d : Daemon) : String :=
  match (d.call m.request).1 with
  | .ok answer => m.outcome answer
  | .error error => (BoardError.daemon error).userMessage m.action

theorem Mutation.report_of_ok {m : Mutation} {d : Daemon} {answer : m.Answer}
    (h : (d.call m.request).1 = .ok answer) : m.report d = m.outcome answer := by
  simp only [Mutation.report, h]

theorem Mutation.report_of_error {m : Mutation} {d : Daemon} {error : DaemonError}
    (h : (d.call m.request).1 = .error error) :
    m.report d = (BoardError.daemon error).userMessage m.action := by
  simp only [Mutation.report, h]

namespace Change

/-- What a failure is reported as before the action has an object. -/
def action : Change → String
  | direct m => m.action
  | row r => r.action

/-- The messages that an action offers.  A prune whose report cannot be kept breaks
off after its announcement. -/
def messages {ρ : Type} [Refresh ρ] (op : Change) (b : Dashboard ρ) : List String :=
  match op.mutation b.daemon with
  | (.ok m, d) => if (op.run b).1.isOk then [m.announcement, m.report d] else [m.announcement]
  | (.error error, _) => [error.userMessage op.action]

end Change

namespace Dashboard

variable {ρ : Type} [Refresh ρ]

theorem perform_of_overflow
    {b : Dashboard ρ} {m : Mutation} {answer : m.Answer} {d : Daemon}
    {overflow : ClockOverflow} (h : b.daemon.call m.request = (.ok answer, d))
    (hkept : b.keepResult m answer = .error overflow) :
    b.perform m = (.error overflow, { b.say m.announcement with daemon := d }) := by
  have hsame :
      { b.say m.announcement with daemon := d }.keepResult m answer = .error overflow :=
    (keepResult_frame b d _ _ m answer).trans hkept
  unfold perform fetch ask
  rw [show (b.say m.announcement).daemon = b.daemon from rfl, h]
  simp only [Except.mapError, hsame]

theorem outbox_perform (b : Dashboard ρ) (m : Mutation) :
    (b.perform m).2.outbox =
      b.outbox.offerAll
        (if (b.perform m).1.isOk then [m.announcement, m.report b.daemon]
        else [m.announcement]) := by
  rcases h : b.daemon.call m.request with ⟨error | answer, d⟩
  · rw [perform_of_error h, Mutation.report_of_error (congrArg Prod.fst h)]
    rfl
  · cases hkept : b.keepResult m answer with
    | ok cache =>
        rw [perform_of_ok h hkept, Mutation.report_of_ok (congrArg Prod.fst h)]
        rfl
    | error overflow =>
        rw [perform_of_overflow h hkept]
        rfl

/-- An action offers its announcement and its report, or the one report that
there is no object in a row. -/
theorem outbox_run (op : Change) (b : Dashboard ρ) :
    (op.run b).2.outbox = b.outbox.offerAll (op.messages b) := by
  cases op with
  | direct m => exact outbox_perform b m
  | row r =>
      change (b.performRow r).outbox = _
      rw [performRow_eq, Change.messages,
        show (Change.row r).mutation = r.mutation <$> r.row.objectId from rfl, Query.map_eq]
      rcases h : r.row.objectId b.daemon with ⟨error | id, d⟩
      · exact congrArg Dashboard.outbox (onRow_of_error b h)
      · have hcompletes := perform_completes { b with daemon := d } (r.mutation id)
          fun hprune => absurd hprune (r.mutation_ne_prune id)
        have houtbox := outbox_perform { b with daemon := d } (r.mutation id)
        rw [hcompletes] at houtbox
        rw [onRow_of_ok b h]
        exact houtbox

/-- A consumer that waited when an action began, and then goes on receiving,
receives the announcement and, if the outbox has any room, the outcome or the
failure report after it.  Without room the outcome is lost.  An action on a row
without an object has no announcement, and its one report is received.  The action
returns, unless it is a prune whose report the clock cannot keep long enough. -/
theorem waiting_consumer_receives
    (op : Change) (b : Dashboard ρ) (hparked : b.outbox.IsParked) (polls : Nat) :
    (op.run b).2.outbox.polled polls =
      (match op.mutation b.daemon with
        | (.ok m, d) =>
          if b.outbox.capacity = 0 ∨ ¬ (op.run b).1.isOk then [m.announcement]
          else [m.announcement, m.report d]
        | (.error error, _) => [error.userMessage op.action]).take polls ∧
    (¬ (op.run b).1.isOk →
      op = .direct .prune ∧ Cache.horizon ≤ b.clock + b.config.reportTtl) := by
  constructor
  · rw [outbox_run, Outbox.polled_offerAll_of_isParked hparked, Change.messages]
    rcases op.mutation b.daemon with ⟨error | m, d⟩
    · simp
    · by_cases hok : (op.run b).1.isOk
      · by_cases hroom : b.outbox.capacity = 0
        · simp [hok, hroom]
        · obtain ⟨more, hmore⟩ := Nat.exists_eq_succ_of_ne_zero hroom
          simp [hok, hmore]
      · simp [hok]
  · intro hbroken
    cases op with
    | row r => exact absurd rfl hbroken
    | direct m =>
        by_cases hclock : m = .prune → b.clock + b.config.reportTtl < Cache.horizon
        · have hcompletes : (b.perform m).1 = .ok () := perform_completes b m hclock
          change ¬ (b.perform m).1.isOk at hbroken
          rw [hcompletes] at hbroken
          exact absurd rfl hbroken
        · obtain ⟨hprune, hlate⟩ := Classical.not_imp.mp hclock
          exact ⟨congrArg Change.direct hprune, Nat.le_of_not_lt hlate⟩

/-- The sample daemon has one dangling image. -/
theorem report_removeDangling_sample :
    Mutation.removeDangling.report Sample.daemon = "Removed 1 dangling images" := by
  have hanswer : (Sample.daemon.call Mutation.removeDangling.request).1 = .ok (1 : Nat) := rfl
  exact Mutation.report_of_ok hanswer

/-- With room for one message, both messages of the first removal are received. -/
theorem removal_received_with_room :
    ∃ b₀ : Dashboard RedrawCount,
      start Sample.daemon default { outboxCapacity := 1 } = .ok b₀ ∧
        let b := { b₀ with outbox := b₀.outbox.poll.2 }
        b.outbox.IsParked ∧
          ((Change.direct .removeDangling).run b).2.outbox.polled 2 =
            ["Removing dangling images", "Removed 1 dangling images"] := by
  refine ⟨_, rfl, ?_⟩
  intro b
  have hparked : b.outbox.IsParked := ⟨⟨rfl, rfl, rfl, rfl⟩, rfl⟩
  refine ⟨hparked, ?_⟩
  have hreport : Mutation.removeDangling.report b.daemon = "Removed 1 dangling images" :=
    report_removeDangling_sample
  rw [(waiting_consumer_receives (.direct .removeDangling) b hparked 2).1]
  change [_, Mutation.removeDangling.report b.daemon] = _
  rw [hreport]
  rfl

/-- Without room a consumer that waits all the time never receives the outcome of
the first removal. -/
theorem outcome_lost_without_room :
    ∃ b₀ : Dashboard RedrawCount,
      start Sample.daemon default {} = .ok b₀ ∧
        let b := { b₀ with outbox := b₀.outbox.poll.2 }
        b.outbox.IsParked ∧
          Mutation.removeDangling.report b.daemon = "Removed 1 dangling images" ∧
          ∀ polls, "Removed 1 dangling images" ∉
            ((Change.direct .removeDangling).run b).2.outbox.polled polls := by
  refine ⟨_, rfl, ?_⟩
  intro b
  have hparked : b.outbox.IsParked := ⟨⟨rfl, rfl, rfl, rfl⟩, rfl⟩
  have hreport : Mutation.removeDangling.report b.daemon = "Removed 1 dangling images" :=
    report_removeDangling_sample
  refine ⟨hparked, hreport, ?_⟩
  intro polls hreceived
  have hoffers : ((Change.direct .removeDangling).run b).2.outbox =
      b.outbox.offerAll [_, Mutation.removeDangling.report b.daemon] :=
    outbox_run (.direct .removeDangling) b
  rw [hoffers, Outbox.polled_offerAll_of_isParked hparked] at hreceived
  have hannounced : "Removed 1 dangling images" ∈ ["Removing dangling images"] :=
    List.mem_of_mem_take hreceived
  simp at hannounced

end Dashboard

end ContainerBoard
