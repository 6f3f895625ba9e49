import ContainerBoard.Proofs.Dashboard.Redraw

/-!
# Gathering a screen

Gathering what a screen shows asks the daemon for a list at most, and a request for a
list is only recorded.  So however often a screen is gathered, nothing else changes, and
the same is shown each time.

In particular drawing asks for no redraw.  Once the signal was taken, the channel stays
empty as long as nothing is done but to draw.
-/

namespace ContainerBoard

namespace Daemon

variable {α : Type}

theorem map_answerOnly (d : Daemon) (found : Except DaemonError α) :
    (d.answerOnly found).map Prod.fst = found := by
  cases found <;> rfl

/-- A request that changes no objects is answered from what the daemon holds, whatever it
was asked before. -/
theorem answer_eq_answerOnly
    (d : Daemon) {request : Request α} (hchanges : request.operation.changes = [])
    (hkind : request.operation ≠ .subscribe) (calls : List Call) :
    { d with calls }.answer request =
      { d with calls }.answerOnly ((d.answer request).map Prod.fst) := by
  cases request with
  | kill id | removeContainer id | removeImage id force | removeNetwork id
  | removeStopped | removeDangling | prune => cases hchanges
  | subscribe => exact absurd rfl hkind
  | containers | images | networks | nodes | services | info | ping => rfl
  -- all others look for something first
  | _ => exact congrArg { d with calls }.answerOnly (d.map_answerOnly _).symm

/-- Such a request is only recorded, and it gets the same answer later on. -/
theorem call_eq_record
    (d : Daemon) {request : Request α} (hchanges : request.operation.changes = [])
    (hkind : request.operation ≠ .subscribe) (calls : List Call) :
    { d with calls }.call request =
      ((d.call request).1, { d with calls }.record request.call) := by
  cases hfailure : d.failures.get? request.operation with
  | some error =>
      have hlater : { d with calls }.failures.get? request.operation = some error := hfailure
      rw [call_of_failure hfailure, call_of_failure hlater]
  | none =>
      have hlater : { d with calls }.failures.get? request.operation = none := hfailure
      have hanswer (calls : List Call) := d.answer_eq_answerOnly hchanges hkind calls
      cases hfound : (d.answer request).map Prod.fst with
      | ok value =>
          rw [hfound] at hanswer
          rw [call_of_answer hfailure (hanswer _), call_of_answer hlater (hanswer _)]
          rfl
      | error error =>
          rw [hfound] at hanswer
          rw [call_of_answer_error hfailure (hanswer _),
            call_of_answer_error hlater (hanswer _)]

end Daemon

namespace Dashboard

variable {ρ α : Type}

/-! ## What gathering leaves behind -/

/-- The dashboard after requests that were only recorded and lines that were only logged,
both last one first. -/
def noting (b : Dashboard ρ) (calls : List Call) (lines : Journal) : Dashboard ρ :=
  { b with
    daemon := { b.daemon with calls := calls ++ b.daemon.calls }
    journal := lines ++ b.journal }

theorem noting_noting
    (b : Dashboard ρ) (calls later : List Call) (lines more : Journal) :
    (b.noting calls lines).noting later more = b.noting (later ++ calls) (more ++ lines) := by
  simp only [noting, List.append_assoc]

theorem fetch_noting
    (b : Dashboard ρ) {request : Request α} (hchanges : request.operation.changes = [])
    (hkind : request.operation ≠ .subscribe) (calls : List Call) (lines : Journal) :
    (b.noting calls lines).fetch request =
      ((b.fetch request).1, (b.noting calls lines).noting [request.call] []) := by
  have hcall := b.daemon.call_eq_record hchanges hkind (calls ++ b.daemon.calls)
  unfold fetch ask noting
  rw [hcall]
  rfl

/-- Gathering the screen costs some requests and lines of the log, and shows the same
wherever only such were noted before. -/
structure Gathers (b : Dashboard ρ) (calls : List Call) (lines : Journal) : Prop where
  body_noting : ∀ earlier before,
    (b.noting earlier before).body =
      (b.body.1, (b.noting earlier before).noting calls lines)
  length_le : calls.length ≤ 1
  changes : ∀ call ∈ calls, call.operation.changes = []

/-- Showing what is there already costs nothing. -/
theorem gathers_of_still
    {b : Dashboard ρ}
    (hbody : ∀ calls lines, (b.noting calls lines).body = (b.body.1, b.noting calls lines)) :
    Gathers b [] [] :=
  ⟨hbody, Nat.zero_le 1, nofun⟩

theorem gathers_of_fetch
    {b : Dashboard ρ} (request : Request α) (hchanges : request.operation.changes = [])
    {lines : Journal}
    (hbody : ∀ earlier before,
      (b.noting earlier before).body =
        (b.body.1, (b.noting earlier before).noting [request.call] lines)) :
    Gathers b [request.call] lines := by
  refine ⟨hbody, Nat.le_refl 1, ?_⟩
  intro call hcall
  rw [List.mem_singleton.mp hcall]
  exact hchanges

theorem gathers_of_fetchBody
    {b : Dashboard ρ} (request : Request α) (bodyOf : α → Body)
    (hchanges : request.operation.changes = []) (hkind : request.operation ≠ .subscribe)
    (hbody : ∀ calls lines,
      (b.noting calls lines).body = (b.noting calls lines).fetchBody request bodyOf) :
    Gathers b [request.call] [] := by
  apply gathers_of_fetch request hchanges
  intro earlier before
  have hnow : b.body = b.fetchBody request bodyOf := hbody [] []
  have hlater := b.fetch_noting hchanges hkind earlier before
  rw [hbody, hnow, fetchBody, fetchBody, hlater]

/-- The list of networks is fetched, and a line is logged if that fails. -/
theorem exists_gathers_networks
    {b : Dashboard ρ} (hview : b.navigation.view = .networks) :
    ∃ lines, Gathers b [Request.networks.call] lines := by
  have hbody (calls : List Call) (lines : Journal) :
      (b.noting calls lines).body = (b.noting calls lines).networksBody := by
    have hsame : (b.noting calls lines).navigation.view = .networks := hview
    simp only [body, hsame]
  have hnow : b.body = (b.noting [] []).networksBody := hbody [] []
  have hfetch : ∀ calls lines, (b.noting calls lines).fetch .networks =
      ((b.fetch .networks).1, (b.noting calls lines).noting [Request.networks.call] []) :=
    b.fetch_noting rfl nofun
  cases hanswer : (b.fetch .networks).1 with
  | error error =>
      let line := "Live network list failed, using snapshot: " ++ error.message
      refine ⟨[.debug line], gathers_of_fetch .networks rfl ?_⟩
      intro earlier before
      rw [hbody, hnow, networksBody, networksBody, hfetch, hfetch, hanswer]
      rfl
  | ok networks =>
      refine ⟨[], gathers_of_fetch .networks rfl ?_⟩
      intro earlier before
      rw [hbody, hnow, networksBody, networksBody, hfetch, hfetch, hanswer]

/-- Whatever screen is active, gathering it costs one request at most. -/
theorem exists_gathers (b : Dashboard ρ) : ∃ calls lines, Gathers b calls lines := by
  have hview (calls : List Call) (lines : Journal) :
      (b.noting calls lines).navigation.view = b.navigation.view := rfl
  have hsnapshots (calls : List Call) (lines : Journal) :
      (b.noting calls lines).snapshots = b.snapshots := rfl
  have hfetch {α : Type} (request : Request α) (bodyOf : α → Body)
      (hchanges : request.operation.changes = []) (hkind : request.operation ≠ .subscribe)
      (hbody : ∀ calls lines,
        (b.noting calls lines).body = (b.noting calls lines).fetchBody request bodyOf) :
      ∃ calls lines, Gathers b calls lines :=
    ⟨_, _, gathers_of_fetchBody request bodyOf hchanges hkind hbody⟩
  have hstill (hbody : ∀ calls lines,
      (b.noting calls lines).body = (b.body.1, b.noting calls lines)) :
      ∃ calls lines, Gathers b calls lines :=
    ⟨_, _, gathers_of_still hbody⟩
  cases hb : b.navigation.view with
  | containers =>
      apply hfetch .containers (fun cs => .list (cs.map Row.container)) rfl nofun
      intro calls lines
      rw [body, hview, hb]
  | images =>
      apply hfetch .images (fun is => .list (is.map Row.image)) rfl nofun
      intro calls lines
      rw [body, hview, hb]
  | networks => exact ⟨_, exists_gathers_networks hb⟩
  | monitor =>
      apply hfetch .containers Body.monitor rfl nofun
      intro calls lines
      rw [body, hview, hb]
  | nodes =>
      apply hfetch .nodes (fun ns => .list (ns.map Row.node)) rfl nofun
      intro calls lines
      rw [body, hview, hb]
  | services =>
      apply hfetch .services (fun ss => .list (ss.map Row.service)) rfl nofun
      intro calls lines
      rw [body, hview, hb]
  | serviceTasks =>
      cases hservice : b.snapshots.service with
      | none =>
          apply hstill
          intro calls lines
          rw [body, body, hview, hb, hsnapshots, hservice]
      | some id =>
          apply hfetch (.serviceTasks id) Body.tasks rfl nofun
          intro calls lines
          rw [body, hview, hb, hsnapshots, hservice]
  | nodeTasks =>
      cases hnode : b.snapshots.node with
      | none =>
          apply hstill
          intro calls lines
          rw [body, body, hview, hb, hsnapshots, hnode]
      | some id =>
          apply hfetch (.nodeTasks id) Body.tasks rfl nofun
          intro calls lines
          rw [body, hview, hb, hsnapshots, hnode]
  | help =>
      apply hstill
      intro calls lines
      rw [body, body, hview, hb]
  | _ =>
      -- snapshots, the cache and the event log are the same after requests
      apply hstill
      intro calls lines
      rw [body, body, hview, hb]
      rfl

namespace Gathers

variable {b : Dashboard ρ} {calls : List Call} {lines : Journal}

theorem screen_noting
    (h : Gathers b calls lines) (earlier : List Call) (before : Journal)
    (status : Option String) :
    (b.noting earlier before).screen status =
      ((b.screen status).1, (b.noting earlier before).noting calls lines) := by
  have hbody := h.body_noting earlier before
  unfold screen
  rw [hbody]
  rfl

end Gathers

/-! ## Gathering over and over -/

/-- Gathers the screen once for each status message. -/
def gatherAll (b : Dashboard ρ) (statuses : List (Option String)) : Dashboard ρ :=
  statuses.foldl (fun b status => (b.screen status).2) b

/-- Each gathering adds to what was noted, and nothing else. -/
theorem exists_gatherAll_noting
    {b : Dashboard ρ} {calls : List Call} {lines : Journal} (h : Gathers b calls lines)
    (statuses : List (Option String)) (earlier : List Call) (before : Journal) :
    ∃ asked logged,
      (b.noting earlier before).gatherAll statuses =
        (b.noting earlier before).noting asked logged ∧
      asked.length ≤ statuses.length ∧ ∀ call ∈ asked, call.operation.changes = [] := by
  induction statuses generalizing earlier before with
  | nil => exact ⟨[], [], rfl, Nat.le_refl 0, nofun⟩
  | cons status statuses ih =>
      obtain ⟨asked, logged, hrest, hlength, hchanges⟩ :=
        ih (calls ++ earlier) (lines ++ before)
      rw [← noting_noting] at hrest
      refine ⟨asked ++ calls, logged ++ lines, ?_, ?_, ?_⟩
      · rw [← noting_noting, ← hrest]
        change gatherAll ((b.noting earlier before).screen status).2 statuses = _
        rw [h.screen_noting]
      · have hone : calls.length ≤ 1 := h.length_le
        rw [List.length_append, List.length_cons]
        omega
      · intro call hcall
        rcases List.mem_append.mp hcall with hlater | hnow
        · exact hchanges call hlater
        · exact h.changes call hnow

/-! ## Drawing over and over -/

theorem refresh_notMem_gatherScript (b : Dashboard ρ) : .refresh ∉ gatherScript b := by
  unfold gatherScript
  cases b.navigation.view with
  | networks =>
      unfold askScript
      cases (b.daemon.call .networks).1 <;> simp
  | serviceTasks => cases b.snapshots.service <;> simp
  | nodeTasks => cases b.snapshots.node <;> simp
  | _ => simp

/-- Whoever draws takes the signal, gathers what the screen shows, and does nothing
else. -/
inductive Moment.Draws : Moment → Prop where
  | begin (status : Option String) : Draws (.begin (.act (.gather status)))
  | proceed : Draws .proceed
  | drain : Draws .drain

namespace Watch

/-- No signal is on the channel, and the operation under way asks for none. -/
structure Quiet (w : Watch) : Prop where
  queued : w.queued = 0
  ahead : .refresh ∉ w.ahead

theorem quiet_step {w : Watch} (h : w.Quiet) {moment : Moment} (hdraws : moment.Draws) :
    (w.step moment).Quiet := by
  obtain ⟨board, ahead, handling, queued, isStale⟩ := w
  cases hdraws with
  | begin status =>
      cases ahead with
      | nil => exact ⟨h.queued, board.refresh_notMem_gatherScript⟩
      | cons next rest => exact h
  | proceed =>
      cases ahead with
      | nil => exact h
      | cons next rest =>
          let w : Watch := ⟨board, next :: rest, handling, queued, isStale⟩
          obtain ⟨hnext, hrest⟩ : next ≠ .refresh ∧ .refresh ∉ rest := by
            simpa [eq_comm] using h.ahead
          have hqueued : (w.make next).queued = 0 :=
            (w.queued_make_of_ne hnext).trans h.queued
          exact ⟨hqueued, hrest⟩
  | drain =>
      have hnone : queued = 0 := h.queued
      refine ⟨?_, h.ahead⟩
      change queued - 1 = 0
      rw [hnone]

theorem quiet_after
    {w : Watch} (h : w.Quiet) {moments : List Moment}
    (hdraws : ∀ moment ∈ moments, moment.Draws) : (w.after moments).Quiet := by
  induction moments generalizing w with
  | nil => exact h
  | cons moment moments ih =>
      obtain ⟨hfirst, hlater⟩ := List.forall_mem_cons.mp hdraws
      exact ih (quiet_step h hfirst) hlater

theorem quiet_drain {w : Watch} (hover : w.ahead = []) (hqueued : w.queued ≤ 1) :
    (w.step .drain).Quiet := by
  refine ⟨?_, ?_⟩
  · exact Nat.sub_eq_zero_of_le hqueued
  · change .refresh ∉ w.ahead
    rw [hover]
    exact List.not_mem_nil

end Watch

/-- Gathering only reads.  However often the screen is gathered, with whatever status
messages, the dashboard stays as it is but for the record of its requests and the log:
each time it asks at most once, for something that changes no objects.  What is gathered
next is what would have been gathered at first.

No redraw is asked for.  Once the signal was taken and as long as nothing is done but to
draw, there is none. -/
theorem gathering_only_reads (b : Dashboard ρ) (statuses : List (Option String)) :
    (∃ calls lines,
      b.gatherAll statuses = b.noting calls lines ∧
        calls.length ≤ statuses.length ∧
        ∀ call ∈ calls, call.operation.changes = []) ∧
      (∀ status, ((b.gatherAll statuses).screen status).1 = (b.screen status).1) ∧
      ∀ (w : Watch) (moments : List Moment), w.ahead = [] → w.queued ≤ 1 →
        (∀ moment ∈ moments, moment.Draws) →
          (w.after (.drain :: moments)).queued = 0 := by
  obtain ⟨calls, lines, hgathers⟩ := b.exists_gathers
  obtain ⟨asked, logged, hall, hlength, hchanges⟩ :=
    exists_gatherAll_noting hgathers statuses [] []
  have hall : b.gatherAll statuses = b.noting asked logged := hall
  refine ⟨⟨asked, logged, hall, hlength, hchanges⟩, ?_, ?_⟩
  · intro status
    rw [hall, hgathers.screen_noting]
  · intro w moments hover hqueued hdraws
    have hquiet : (w.step .drain).Quiet := Watch.quiet_drain hover hqueued
    exact (Watch.quiet_after hquiet hdraws).queued

/-- The networks are drawn twice while they cannot be listed. -/
theorem networks_are_drawn_twice :
    let daemon := Sample.daemon.fail .networks (.unavailable "down")
    let moments : List Moment :=
      [.begin (.act (.gather none)), .proceed, .proceed, .drain,
        .begin (.act (.gather none)), .proceed, .proceed]
    ∃ b : Dashboard RedrawSignal,
      start daemon ({} : RedrawSignal) default = .ok b ∧
        let b' := b.act (.showView .networks)
        (∃ calls lines,
          b'.gatherAll [none, some "Ready"] = b'.noting calls lines ∧ calls.length ≤ 2 ∧
            ∀ call ∈ calls, call.operation.changes = []) ∧
          ((b'.gatherAll [none, some "Ready"]).screen none).1 = (b'.screen none).1 ∧
          (Watch.after { board := b', queued := 1 } (.drain :: moments)).queued = 0 := by
  intro daemon moments
  obtain ⟨b, hstart⟩ : ∃ b, start daemon ({} : RedrawSignal) default = .ok b := ⟨_, rfl⟩
  obtain ⟨hnoted, hshown, hquiet⟩ :=
    gathering_only_reads (b.act (.showView .networks)) [none, some "Ready"]
  refine ⟨b, hstart, hnoted, hshown none, hquiet _ moments rfl (Nat.le_refl 1) ?_⟩
  intro moment hmoment
  have hkinds : moment = .begin (.act (.gather none)) ∨ moment = .proceed ∨
      moment = .drain := by
    simp only [moments, List.mem_cons, List.not_mem_nil, or_false] at hmoment
    tauto
  rcases hkinds with rfl | rfl | rfl
  · exact .begin none
  · exact .proceed
  · exact .drain

end Dashboard

end ContainerBoard
