import ContainerBoard.Daemon.Sample
import ContainerBoard.Dashboard.Mutation
import ContainerBoard.Proofs.Dashboard.Observation
import ContainerBoard.Proofs.Dashboard.Query
import ContainerBoard.Proofs.KeyTable

/-!
# Reporting actions

An action that changes objects of the daemon is announced, then asked for, and
then its outcome is reported.  The report agrees with what became of the
objects, and nothing that the user looks at changes, apart from the report of a
prune that is kept.
-/

namespace ContainerBoard

namespace Mutation

/-- What the daemon is asked for an action, and the report that there is to
keep. -/
def query : Mutation → Query (Option PruneReport)
  | kill id => (fun _ => none) <$> .ask (.kill id)
  | removeContainer id => (fun _ => none) <$> .ask (.removeContainer id)
  | removeImage id force => (fun _ => none) <$> .ask (.removeImage id force)
  | removeNetwork id => (fun _ => none) <$> .ask (.removeNetwork id)
  | removeStopped => (fun _ => none) <$> .ask .removeStopped
  | removeDangling => (fun _ => none) <$> .ask .removeDangling
  | prune => some <$> .ask .prune

/-- The report that an answer leaves to keep. -/
def kept : (m : Mutation) → m.Answer → Option PruneReport
  | prune, report => some report
  | _, _ => none

theorem query_eq (m : Mutation) (d : Daemon) :
    m.query d =
      (((d.call m.request).1.mapError .daemon).map m.kept, (d.call m.request).2) := by
  cases m with
  | _ => exact Query.map_eq _ _ d

/-- How the report of a bulk removal starts that removes a number of objects. -/
def countText : Mutation → Option (Nat → String)
  | removeStopped => some fun count => "Removed " ++ count.repr ++ " stopped containers"
  | removeDangling => some fun count => "Removed " ++ count.repr ++ " dangling images"
  | prune => some fun count => "Pruned " ++ count.repr ++ " objects"
  | _ => none

/-- The summary of a prune starts with the number of objects. -/
theorem countText_prune (report : PruneReport) :
    ("Pruned " ++ report.total.repr ++ " objects").toList <+:
      (pruneSummary report).toList := by
  have hsummary :
      pruneSummary report =
        ("Pruned " ++ report.total.repr ++ " objects") ++
          (", reclaimed " ++ ByteCount.format report.reclaimed.toNat) := by
    unfold pruneSummary
    generalize ByteCount.format report.reclaimed.toNat = size
    simp [← String.toList_inj, String.toList_append]
  rw [hsummary]
  exact ⟨_, String.toList_append.symm⟩

/-- If a message names a number of objects, then as many disappeared. -/
def CountsIn (m : Mutation) (message : String) (d d' : Daemon) : Prop :=
  ∀ text, m.countText = some text →
    ∃ count, d.Loses d' count ∧ (text count).toList <+: message.toList

/-- The number that an action reports is the number of objects that its request
removed. -/
theorem countsIn_outcome
    {m : Mutation} {d d' : Daemon} {answer : m.Answer}
    (h : d.call m.request = (.ok answer, d')) :
    m.CountsIn (m.outcome answer) d d' := by
  intro text htext
  have hanswer := Daemon.call_ok h
  cases m with
  | removeStopped =>
      cases htext
      cases hanswer
      exact ⟨_, (d.record _).removeStopped_loses.of_record, List.prefix_refl _⟩
  | removeDangling =>
      cases htext
      cases hanswer
      exact ⟨_, (d.record _).removeDangling_loses.of_record, List.prefix_refl _⟩
  | prune =>
      cases htext
      have hpair := Except.ok.inj hanswer
      have hreport : (d.record Request.prune.call).pruneReport = answer :=
        congrArg Prod.fst hpair
      have hpruned : (d.record Request.prune.call).pruned = d' := congrArg Prod.snd hpair
      have hloses := (d.record Request.prune.call).pruned_loses.of_record
      rw [hreport, hpruned] at hloses
      exact ⟨answer.total, hloses, countText_prune answer⟩
  | _ => cases htext

theorem not_isFailure_outcome (m : Mutation) (answer : m.Answer) :
    ¬ IsFailure (m.outcome answer) := by
  cases m with
  | kill id => exact not_isFailure_append "Killed container with id " _ (by simp)
  | removeContainer id => exact not_isFailure_append "Removed container with id " _ (by simp)
  | removeImage id force => exact not_isFailure_append "Removed image: " _ (by simp)
  | removeNetwork id => exact not_isFailure_append "Removed network: " _ (by simp)
  | removeStopped =>
      change ¬ IsFailure ("Removed " ++ _ ++ _)
      rw [String.append_assoc]
      exact not_isFailure_append _ _ (by simp)
  | removeDangling =>
      change ¬ IsFailure ("Removed " ++ _ ++ _)
      rw [String.append_assoc]
      exact not_isFailure_append _ _ (by simp)
  | prune =>
      change ¬ IsFailure ("Pruned " ++ _ ++ _ ++ _)
      rw [String.append_assoc, String.append_assoc]
      exact not_isFailure_append _ _ (by simp)

end Mutation

namespace RowMutation

def row : RowMutation → ObjectRow
  | kill position => .container position
  | removeContainer position => .container position
  | removeImage position _ => .image position
  | removeNetwork position => .network position

def mutation : RowMutation → String → Mutation
  | kill _, id => .kill id
  | removeContainer _, id => .removeContainer id
  | removeImage _ force, id => .removeImage id force
  | removeNetwork _, id => .removeNetwork id

theorem mutation_ne_prune (r : RowMutation) (id : String) : r.mutation id ≠ .prune := by
  cases r with
  | _ => exact Mutation.noConfusion

/-- What a failure to find the object is reported as. -/
def action : RowMutation → String
  | kill _ => "killing container"
  | removeContainer _ => "removing container"
  | removeImage _ _ => "removing image"
  | removeNetwork _ => "removing network"

end RowMutation

/-- An action on an object that is given by its id, or by its row, or on all
objects of a kind. -/
inductive Change where
  | direct (m : Mutation)
  | row (r : RowMutation)
  deriving DecidableEq

namespace Change

/-- The action that it comes down to, once the object was found. -/
def mutation : Change → Query Mutation
  | direct m => pure m
  | row r => r.mutation <$> r.row.objectId

def run {ρ : Type} [Refresh ρ] (b : Dashboard ρ) :
    Change → Except ClockOverflow Unit × Dashboard ρ
  | direct m => b.perform m
  | row r => (.ok (), b.performRow r)

end Change

namespace Dashboard

variable {ρ : Type}

/-! ## The report that is kept -/

/-- A cache is as before, or, where there is a report to keep, that report is
read from it until its time is over. -/
def Keeps (b : Dashboard ρ) (cache : Cache) : Option PruneReport → Prop
  | none => cache = b.cache
  | some report =>
    cache.entries.get? .pruneReport =
        some ⟨.pruneReport report, b.clock + b.config.reportTtl⟩ ∧
      ∀ now,
        cache.pruneReport now =
          if now < b.clock + b.config.reportTtl then some report else none

/-- As long as the clock can tell the time, the result of an action is kept. -/
theorem keepResult_keeps
    (b : Dashboard ρ) (m : Mutation) (answer : m.Answer)
    (hclock : m = .prune → b.clock + b.config.reportTtl < Cache.horizon) :
    ∃ cache, b.keepResult m answer = .ok cache ∧ b.Keeps cache (m.kept answer) := by
  cases m with
  | prune =>
      let entry : CacheEntry :=
        ⟨.pruneReport answer, b.clock + b.config.reportTtl⟩
      let cache : Cache := ⟨b.cache.entries.insert .pruneReport entry⟩
      have hentry : cache.entries.get? .pruneReport = some entry := by
        rw [KeyTable.get?_insert, if_pos rfl]
      refine ⟨cache, if_pos (hclock rfl), hentry, ?_⟩
      intro now
      unfold Cache.pruneReport Cache.get
      rw [hentry]
      by_cases hnow : now < b.clock + b.config.reportTtl
      · simp [entry, CacheEntry.isExpired, hnow, Nat.not_le_of_lt hnow]
      · simp [entry, CacheEntry.isExpired, hnow, Nat.le_of_not_lt hnow]
  | _ => exact ⟨b.cache, rfl, rfl⟩

/-- What is kept depends on neither the daemon, the outbox nor the log. -/
theorem keepResult_frame
    (b : Dashboard ρ) (d : Daemon) (box : Outbox) (journal : Journal)
    (m : Mutation) (answer : m.Answer) :
    { b with daemon := d, outbox := box, journal := journal }.keepResult m answer =
      b.keepResult m answer := by
  cases m <;> rfl

/-! ## What an action does -/

variable [Refresh ρ]

theorem perform_of_error
    {b : Dashboard ρ} {m : Mutation} {error : DaemonError} {d : Daemon}
    (h : b.daemon.call m.request = (.error error, d)) :
    b.perform m =
      (.ok (),
        { b.say m.announcement with daemon := d }.reportFailure m.action
          (.daemon error)) := by
  unfold perform fetch ask
  rw [show (b.say m.announcement).daemon = b.daemon from rfl, h]
  rfl

theorem perform_of_ok
    {b : Dashboard ρ} {m : Mutation} {answer : m.Answer} {d : Daemon} {cache : Cache}
    (h : b.daemon.call m.request = (.ok answer, d))
    (hkept : b.keepResult m answer = .ok cache) :
    b.perform m =
      (.ok (),
        (({ b.say m.announcement with daemon := d, cache := cache }.log
          (m.successLog answer)).say (m.outcome answer)).refresh) := by
  have hsame :
      { b.say m.announcement with daemon := d }.keepResult m answer = .ok cache :=
    (keepResult_frame b d _ _ m answer).trans hkept
  unfold perform fetch ask
  rw [show (b.say m.announcement).daemon = b.daemon from rfl, h]
  simp only [Except.mapError, hsame]

/-- An action breaks off only where the clock cannot tell how long its result is
kept. -/
theorem perform_completes
    (b : Dashboard ρ) (m : Mutation)
    (hclock : m = .prune → b.clock + b.config.reportTtl < Cache.horizon) :
    (b.perform m).1 = .ok () := by
  rcases h : b.daemon.call m.request with ⟨error | answer, d⟩
  · rw [perform_of_error h]
  · obtain ⟨cache, hkept, -⟩ := keepResult_keeps b m answer hclock
    rw [perform_of_ok h hkept]

theorem performRow_eq (b : Dashboard ρ) (r : RowMutation) :
    b.performRow r = b.onRow r.row r.action fun id b => b.performNow (r.mutation id) := by
  cases r with
  | kill position => exact withRow_containerIdAt b position _ _
  | removeContainer position => exact withRow_containerIdAt b position _ _
  | removeImage position force => exact withRow_imageIdAt b position _ _
  | removeNetwork position => exact withRow_networkIdAt b position _ _

/-! ## Faithful reports -/

/-- An action succeeded: what the user looks at is as before, the cache as well
apart from a report to keep, and one redraw was asked for. -/
structure Succeeds (report : Option PruneReport) (b b' : Dashboard ρ) : Prop
    extends SameView b b' where
  clock : b'.clock = b.clock
  cache : b.Keeps b'.cache report
  redraws : b'.redraws = Refresh.refresh b.redraws

/-- An operation reports an action as it turns out at a daemon: after its
announcement it offers one message, which is a failure report if and only if the
daemon failed, and names the number of objects that disappeared. -/
def Reported
    (m : Mutation) (d : Daemon) (operation : Dashboard ρ → Dashboard ρ)
    (b : Dashboard ρ) : Prop :=
  match m.query d with
  | (.ok report, d') =>
    (operation b).daemon = d' ∧ Succeeds report b (operation b) ∧
      ∃ outcome, ¬ IsFailure outcome ∧ m.CountsIn outcome d d' ∧
        Offers operation b [m.announcement, outcome]
  | (.error _, d') =>
    (operation b).daemon = d' ∧ Unmoved b (operation b) ∧
      ∃ outcome, IsFailure outcome ∧ Offers operation b [m.announcement, outcome]

/-- Doing an action reports it, also with a daemon that was asked before. -/
theorem reported_of_perform
    {m : Mutation} {d : Daemon} {operation : Dashboard ρ → Dashboard ρ} {b : Dashboard ρ}
    (hclock : m = .prune → b.clock + b.config.reportTtl < Cache.horizon)
    (hperform : ∀ box : Outbox,
      operation { b with outbox := box } =
        ({ b with daemon := d, outbox := box }.perform m).2) :
    Reported m d operation b := by
  have hquery := m.query_eq d
  unfold Reported
  rcases h : d.call m.request with ⟨error | answer, d'⟩
  · rw [h] at hquery
    rw [hquery]
    have heq : ∀ box : Outbox,
        operation { b with outbox := box } =
          { { b with daemon := d, outbox := box }.say m.announcement with
            daemon := d' }.reportFailure m.action (.daemon error) := by
      intro box
      rw [hperform box, perform_of_error h]
    refine ⟨?_, ?_, _, isFailure_userMessage (.daemon error) m.action, ?_⟩
    · exact congrArg Dashboard.daemon (heq b.outbox)
    · exact (heq b.outbox) ▸ ⟨⟨rfl, rfl, rfl, rfl⟩, rfl, rfl, rfl⟩
    · intro box
      exact congrArg Dashboard.outbox (heq box)
  · rw [h] at hquery
    rw [hquery]
    obtain ⟨cache, hcache, hkeeps⟩ := keepResult_keeps b m answer hclock
    have heq : ∀ box : Outbox,
        operation { b with outbox := box } =
          (({ { b with daemon := d, outbox := box }.say m.announcement with
            daemon := d', cache := cache }.log (m.successLog answer)).say
              (m.outcome answer)).refresh := by
      intro box
      have hsame :
          { b with daemon := d, outbox := box }.keepResult m answer = .ok cache :=
        (keepResult_frame b d box b.journal m answer).trans hcache
      rw [hperform box, perform_of_ok h hsame]
    refine ⟨?_, ?_, _, m.not_isFailure_outcome answer, Mutation.countsIn_outcome h, ?_⟩
    · exact congrArg Dashboard.daemon (heq b.outbox)
    · exact (heq b.outbox) ▸ ⟨⟨rfl, rfl, rfl, rfl⟩, rfl, hkeeps, rfl⟩
    · intro box
      exact congrArg Dashboard.outbox (heq box)

/-- Actions report faithfully and move nothing that the user looks at.  An
action on an object that is found, or that needs none, is announced, and its one
outcome agrees with what the daemon did; the report of a prune is kept, and
nothing else is.  Where no object is found in a row, nothing else is asked, and
there is one failure report. -/
theorem change_reported
    (op : Change) (b : Dashboard ρ)
    (hclock : op = .direct .prune → b.clock + b.config.reportTtl < Cache.horizon) :
    (op.run b).1 = .ok () ∧
      match op.mutation b.daemon with
      | (.ok m, d) => Reported m d (fun b => (op.run b).2) b
      | (.error _, _) =>
        ∃ r, op = .row r ∧ (op.run b).2.daemon = b.daemon.record r.row.call ∧
          Unmoved b (op.run b).2 ∧
          ∃ message, IsFailure message ∧ Offers (fun b => (op.run b).2) b [message] := by
  cases op with
  | direct m =>
      have hm : m = .prune → b.clock + b.config.reportTtl < Cache.horizon := by
        rintro rfl
        exact hclock rfl
      constructor
      · exact perform_completes b m hm
      · exact reported_of_perform hm fun _ => rfl
  | row r =>
      refine ⟨rfl, ?_⟩
      have hrun : (fun b : Dashboard ρ => ((Change.row r).run b).2) =
          fun b => b.onRow r.row r.action fun id b => b.performNow (r.mutation id) := by
        funext b
        exact performRow_eq b r
      have hrow : ((Change.row r).run b).2 =
          b.onRow r.row r.action fun id b => b.performNow (r.mutation id) :=
        congrFun hrun b
      rw [hrun, hrow, show (Change.row r).mutation = r.mutation <$> r.row.objectId from rfl,
        Query.map_eq]
      rcases h : r.row.objectId b.daemon with ⟨error | id, d⟩
      · obtain ⟨hdaemon, hunmoved, hoffers⟩ := onRow_notFound h
        exact ⟨r, rfl, hdaemon, hunmoved, _, isFailure_userMessage error r.action, hoffers⟩
      · have hm : r.mutation id ≠ .prune := by
          cases r with
          | _ => exact Mutation.noConfusion
        apply reported_of_perform (fun hprune => absurd hprune hm)
        intro box
        exact onRow_of_ok { b with outbox := box } h

/-- A dashboard that was just opened reports its first prune. -/
theorem prune_after_start_reported :
    ∃ b : Dashboard RedrawCount,
      start Sample.daemon default { outboxCapacity := 2 } = .ok b ∧
        b.clock + b.config.reportTtl < Cache.horizon ∧
        ((Change.direct .prune).run b).1 = .ok () ∧
        Reported .prune b.daemon (fun b => ((Change.direct .prune).run b).2) b := by
  refine ⟨_, rfl, ?_, ?_⟩
  · decide
  · exact change_reported (.direct .prune) _ fun _ => by decide

end Dashboard

end ContainerBoard
