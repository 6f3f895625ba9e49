import ContainerBoard.Proofs.Dashboard.Received

/-!
# Prunes under any configuration

A prune is over in one of two ways: the daemon refuses, and then nothing but the
failure report is seen of it, or the daemon prunes, and then the report is kept and
told and a redraw is asked for.  A third way is open to a configuration whose reports
live longer than the clock can tell: the daemon has pruned already when that is found
out, and the action breaks off.  The environment may ask for such a configuration,
because every unsigned 64 bit number of seconds is accepted.
-/

namespace ContainerBoard

/-- The environment decides how many seconds a report can be read; thirty if it gives
no number. -/
theorem Config.reportTtl_ofEnvironment (env : Environment) :
    (ofEnvironment env).reportTtl = 1000 * (setting env reportTtlVariable).getD 30 := by
  unfold ofEnvironment
  cases setting env reportTtlVariable <;> rfl

namespace Daemon

/-- The daemon refuses a prune only where it was made to. -/
theorem call_prune (d : Daemon) :
    d.call .prune =
      match d.failures.get? .prune with
      | some error => (.error error, d.record Request.prune.call)
      | none => (.ok d.pruneReport, (d.record Request.prune.call).pruned) := by
  cases hfailure : d.failures.get? .prune with
  | some error => exact call_of_failure hfailure
  | none => exact call_of_answer hfailure rfl

end Daemon

namespace Dashboard

variable {ρ : Type} [Refresh ρ]

/-- A prune finishes: the daemon refuses, keeps its objects and the cached report, and a
failure is reported; or the daemon prunes, its report is kept and told, and a redraw is
asked for. -/
def PruneFinishes (b : Dashboard ρ) : Prop :=
  (b.perform .prune).1 = .ok () ∧
    match b.daemon.failures.get? .prune with
    | some _ =>
      (b.performNow .prune).daemon = b.daemon.record Request.prune.call ∧
        Unmoved b (b.performNow .prune) ∧
        ∃ failure, IsFailure failure ∧
          Offers (fun b => b.performNow .prune) b [Mutation.prune.announcement, failure]
    | none =>
      (b.performNow .prune).daemon = (b.daemon.record Request.prune.call).pruned ∧
        Succeeds (some b.daemon.pruneReport) b (b.performNow .prune) ∧
        Offers (fun b => b.performNow .prune) b
          [Mutation.prune.announcement, Mutation.pruneSummary b.daemon.pruneReport]

/-- A prune breaks off: the daemon has pruned, but nobody is told, nothing is kept and no
redraw is asked for. -/
structure PruneBreaksOff (b : Dashboard ρ) : Prop where
  overflow : (b.perform .prune).1 = .error ⟨⟩
  daemon : (b.performNow .prune).daemon = (b.daemon.record Request.prune.call).pruned
  unmoved : Unmoved b (b.performNow .prune)
  offers : Offers (fun b => b.performNow .prune) b [Mutation.prune.announcement]

theorem PruneBreaksOff.not_finishes {b : Dashboard ρ} (h : b.PruneBreaksOff) :
    ¬ b.PruneFinishes := by
  intro hfinishes
  have hok : Except.error ClockOverflow.mk = Except.ok () :=
    h.overflow.symm.trans hfinishes.1
  cases hok

/-! ## The three ways -/

theorem pruneFinishes_of_refused
    {b : Dashboard ρ} {error : DaemonError} (h : b.daemon.failures.get? .prune = some error) :
    b.PruneFinishes := by
  -- for every outbox, since what is offered must not depend on it
  have hperform : ∀ box : Outbox,
      { b with outbox := box }.perform .prune =
        (.ok (),
          { { b with outbox := box }.say Mutation.prune.announcement with
            daemon := b.daemon.record Request.prune.call }.reportFailure
              Mutation.prune.action (.daemon error)) := by
    intro box
    apply perform_of_error
    change b.daemon.call .prune = _
    rw [Daemon.call_prune, h]
  unfold PruneFinishes performNow
  rw [h, hperform b.outbox]
  refine ⟨rfl, rfl, ⟨⟨rfl, rfl, rfl, rfl⟩, rfl, rfl, rfl⟩, _,
    isFailure_userMessage (.daemon error) Mutation.prune.action, ?_⟩
  intro box
  exact congrArg (fun done => done.2.outbox) (hperform box)

theorem pruneFinishes_of_works
    {b : Dashboard ρ} (h : b.daemon.failures.get? .prune = none)
    (hroom : b.clock + b.config.reportTtl < Cache.horizon) : b.PruneFinishes := by
  obtain ⟨cache, hcache, hkeeps⟩ :=
    keepResult_keeps b .prune b.daemon.pruneReport fun _ => hroom
  have hperform : ∀ box : Outbox,
      { b with outbox := box }.perform .prune =
        (.ok (),
          (({ { b with outbox := box }.say Mutation.prune.announcement with
            daemon := (b.daemon.record Request.prune.call).pruned
            cache := cache }.log (Mutation.prune.successLog b.daemon.pruneReport)).say
              (Mutation.pruneSummary b.daemon.pruneReport)).refresh) := by
    intro box
    refine perform_of_ok ?_ hcache
    change b.daemon.call .prune = _
    rw [Daemon.call_prune, h]
  unfold PruneFinishes performNow
  rw [h, hperform b.outbox]
  refine ⟨rfl, rfl, ⟨⟨rfl, rfl, rfl, rfl⟩, rfl, hkeeps, rfl⟩, ?_⟩
  intro box
  exact congrArg (fun done => done.2.outbox) (hperform box)

theorem pruneBreaksOff_of_late
    {b : Dashboard ρ} (h : b.daemon.failures.get? .prune = none)
    (hlate : Cache.horizon ≤ b.clock + b.config.reportTtl) : b.PruneBreaksOff := by
  have hoverflow : b.keepResult .prune b.daemon.pruneReport = .error ⟨⟩ :=
    if_neg (Nat.not_lt_of_le hlate)
  have hperform : ∀ box : Outbox,
      { b with outbox := box }.perform .prune =
        (.error ⟨⟩,
          { { b with outbox := box }.say Mutation.prune.announcement with
            daemon := (b.daemon.record Request.prune.call).pruned }) := by
    intro box
    refine perform_of_overflow ?_ hoverflow
    change b.daemon.call .prune = _
    rw [Daemon.call_prune, h]
  have hnow := hperform b.outbox
  refine ⟨congrArg Prod.fst hnow, ?_, ?_, ?_⟩
  · exact congrArg (fun done => done.2.daemon) hnow
  · unfold performNow
    rw [hnow]
    exact ⟨⟨rfl, rfl, rfl, rfl⟩, rfl, rfl, rfl⟩
  · intro box
    exact congrArg (fun done => done.2.outbox) (hperform box)

/-! ## Under any environment -/

/-- Whatever the environment says, a prune either finishes or breaks off after the
daemon has pruned.  It finishes exactly if the daemon refuses, or if the clock can tell
when the seconds that the environment asks for are over. -/
theorem pruneFinishes_ofEnvironment_iff (env : Config.Environment) (board : Dashboard ρ) :
    let b := { board with config := .ofEnvironment env }
    let ttl := 1000 * (Config.setting env Config.reportTtlVariable).getD 30
    (b.PruneFinishes ↔
      (b.daemon.failures.get? .prune).isSome ∨ b.clock + ttl < Cache.horizon) ∧
      (b.PruneFinishes ∨ b.PruneBreaksOff) := by
  intro b ttl
  have httl : b.config.reportTtl = ttl := Config.reportTtl_ofEnvironment env
  cases hfailure : b.daemon.failures.get? .prune with
  | some error =>
      have hfinishes : b.PruneFinishes := pruneFinishes_of_refused hfailure
      exact ⟨⟨fun _ => .inl rfl, fun _ => hfinishes⟩, .inl hfinishes⟩
  | none =>
      by_cases hroom : b.clock + ttl < Cache.horizon
      · have hfinishes : b.PruneFinishes := pruneFinishes_of_works hfailure (httl ▸ hroom)
        exact ⟨⟨fun _ => .inr hroom, fun _ => hfinishes⟩, .inl hfinishes⟩
      · have hbroken : b.PruneBreaksOff :=
          pruneBreaksOff_of_late hfailure (httl ▸ Nat.le_of_not_lt hroom)
        refine ⟨⟨fun hfinishes => absurd hfinishes hbroken.not_finishes, ?_⟩, .inr hbroken⟩
        rintro (hrefused | hroom')
        · simp at hrefused
        · exact absurd hroom' hroom

/-- The environment that asks for the longest time that a report can be read. -/
def longestReportTtl : Config.Environment := fun name =>
  if name = Config.reportTtlVariable then some "18446744073709551615" else none

/-- With the longest time to live, a dashboard that was just opened removes what is
unused, but keeps no report, tells no summary and asks for no redraw. -/
theorem prune_breaks_off_with_longest_ttl :
    ∃ b : Dashboard RedrawCount,
      start Sample.daemon default (.ofEnvironment longestReportTtl) = .ok b ∧
        ¬ b.PruneFinishes ∧
        (b.performNow .prune).daemon.objectCount < b.daemon.objectCount ∧
        (b.performNow .prune).pruneReport = none ∧
        (b.performNow .prune).redraws = b.redraws ∧
        Offers (fun b => b.performNow .prune) b ["Pruning unused objects"] := by
  have hseconds : Config.setting longestReportTtl Config.reportTtlVariable =
      .value 18446744073709551615 := by
    decide +kernel
  have hlate : Cache.horizon ≤ 0 + (Config.ofEnvironment longestReportTtl).reportTtl := by
    rw [Config.reportTtl_ofEnvironment, hseconds]
    decide
  obtain ⟨b, hstart, hbroken, hreport, hloses⟩ :
      ∃ b : Dashboard RedrawCount,
        start Sample.daemon default (.ofEnvironment longestReportTtl) = .ok b ∧
          b.PruneBreaksOff ∧ b.pruneReport = none ∧
          (b.daemon.record Request.prune.call).pruned.objectCount < b.daemon.objectCount :=
    ⟨_, rfl, pruneBreaksOff_of_late rfl hlate, rfl, by decide⟩
  refine ⟨b, hstart, hbroken.not_finishes, ?_, ?_, hbroken.unmoved.redraws, hbroken.offers⟩
  · rw [hbroken.daemon]
    exact hloses
  · exact hbroken.unmoved.report.trans hreport

end Dashboard

end ContainerBoard
