import ContainerBoard.Proofs.Dashboard.Script

/-!
# Changes before redraws

A script is orderly if every step that changes what a redraw shows is followed by a
request for a redraw.  The scripts of all operations are, apart from activating a screen
without a redraw, and so are those of the background work.
-/

namespace ContainerBoard

/-- The operations that may break off with the daemon pruned. -/
def Action.Prunes : Action → Prop
  | .change (.direct .prune) => True
  | .dispatch .prune _ => True
  | _ => False

namespace Dashboard

variable {ρ α : Type}

/-- What a redraw shows. -/
structure Sight where
  navigation : Navigation
  snapshots : Snapshots
  /-- Where the report of the last prune is stored. -/
  cache : Cache
  events : List DaemonEvent
  containers : List Container
  images : List Image
  networks : List Network
  sort : SortMode
  deriving DecidableEq

def sight (b : Dashboard ρ) : Sight where
  navigation := b.navigation
  snapshots := b.snapshots
  cache := b.cache
  events := b.events.recent
  containers := b.daemon.containers
  images := b.daemon.images
  networks := b.daemon.networks
  sort := b.daemon.sort

/-- Apart from its objects and their order, a redraw shows nothing of the daemon. -/
theorem sight_of_sameObjects
    {b : Dashboard ρ} {d : Daemon} (hobjects : ∀ kind, b.daemon.SameObjects d kind)
    (hsort : d.sort = b.daemon.sort) : { b with daemon := d }.sight = b.sight := by
  have hcontainers : d.containers = b.daemon.containers := hobjects .container
  have himages : d.images = b.daemon.images := hobjects .image
  have hnetworks : d.networks = b.daemon.networks := hobjects .network
  simp only [sight, hcontainers, himages, hnetworks, hsort]

theorem sight_close (b : Dashboard ρ) : b.close.sight = b.sight := by
  unfold close
  split
  · rfl
  · unfold Daemon.cancel
    split <;> rfl

variable [Refresh ρ]

/-- A step changes nothing that a redraw shows, whatever the event log and the redraws
have come to since. -/
def Silent (step : Step) (b : Dashboard ρ) : Prop :=
  ∀ (events : EventLog) (redraws : ρ),
    (step.run { b with events, redraws }).sight = { b with events, redraws }.sight

theorem Silent.sight_run {b : Dashboard ρ} {step : Step} (h : Silent step b) :
    (step.run b).sight = b.sight :=
  h b.events b.redraws

/-- Every step of a script that changes what a redraw shows has a request for a redraw
behind it. -/
def Orderly : List Step → Dashboard ρ → Prop
  | [], _ => True
  | step :: rest, b =>
    (Silent step b ∨ .refresh ∈ rest) ∧ Orderly rest (step.run b)

theorem Orderly.cons_of_silent
    {b : Dashboard ρ} {step : Step} {rest : List Step}
    (hstep : Silent step b) (hrest : Orderly rest (step.run b)) :
    Orderly (step :: rest) b :=
  ⟨.inl hstep, hrest⟩

/-- Where no step changes anything, no redraw is missed. -/
theorem orderly_of_silent
    {script : List Step} (b : Dashboard ρ)
    (hscript : ∀ step ∈ script, ∀ b : Dashboard ρ, Silent step b) :
    Orderly script b := by
  induction script generalizing b with
  | nil => trivial
  | cons step rest ih =>
      refine .cons_of_silent (hscript step List.mem_cons_self b) (ih _ ?_)
      intro later hlater
      exact hscript later (List.mem_cons_of_mem step hlater)

/-- Whatever is done before a redraw is asked for, is seen. -/
theorem orderly_append_refresh (script : List Step) (b : Dashboard ρ) :
    Orderly (script ++ [.refresh]) b := by
  induction script generalizing b with
  | nil => exact ⟨.inl fun _ _ => rfl, trivial⟩
  | cons step rest ih =>
      refine ⟨.inr ?_, ih _⟩
      simp

theorem Orderly.append
    {b : Dashboard ρ} {script later : List Step} (hscript : Orderly script b)
    (hlater : Orderly later (b.follow script)) : Orderly (script ++ later) b := by
  induction script generalizing b with
  | nil => exact hlater
  | cons step rest ih =>
      obtain ⟨hstep, hrest⟩ := hscript
      refine ⟨?_, ih hrest hlater⟩
      rcases hstep with hsilent | hrefresh
      · exact .inl hsilent
      · exact .inr (List.mem_append_left later hrefresh)

theorem Orderly.of_append
    {b : Dashboard ρ} {script later : List Step} (h : Orderly (script ++ later) b) :
    Orderly later (b.follow script) := by
  induction script generalizing b with
  | nil => exact h
  | cons step rest ih => exact ih h.2

/-- An orderly script without a request for a redraw changes nothing. -/
theorem Orderly.sight_follow
    {b : Dashboard ρ} {script : List Step} (h : Orderly script b)
    (hsilent : .refresh ∉ script) : (b.follow script).sight = b.sight := by
  induction script generalizing b with
  | nil => rfl
  | cons step rest ih =>
      obtain ⟨hstep, hrest⟩ := h
      have hnone : .refresh ∉ rest := fun hmem => hsilent (List.mem_cons_of_mem step hmem)
      calc
        (b.follow (step :: rest)).sight = (step.run b).sight := ih hrest hnone
        _ = b.sight := (hstep.resolve_right hnone).sight_run

/-- What is seen when an orderly script asks for its last redraw is what it leaves. -/
theorem Orderly.sight_last
    {b : Dashboard ρ} {earlier later : List Step}
    (h : Orderly (earlier ++ .refresh :: later) b) (hlast : .refresh ∉ later) :
    (b.follow (earlier ++ .refresh :: later)).sight = (b.follow earlier).sight := by
  have hlater : Orderly later (b.follow earlier).refresh := h.of_append.2
  rw [follow_append, follow_cons]
  exact hlater.sight_follow hlast

/-! ## Steps that change nothing -/

theorem silent_ask_of_changes_nil
    (b : Dashboard ρ) {request : Request α} (hrequest : request.operation.changes = []) :
    Silent (.ask request) b := by
  intro events redraws
  apply sight_of_sameObjects
  · intro kind
    apply Daemon.sameObjects_call
    simp [hrequest]
  · exact (Daemon.sort_call b.daemon request).1

/-- A request that fails changes nothing. -/
theorem silent_ask_of_error
    {b : Dashboard ρ} {request : Request α} {error : DaemonError}
    (herror : (b.daemon.call request).1 = .error error) : Silent (.ask request) b := by
  have hcall : (b.daemon.call request).2 = b.daemon.record request.call :=
    Daemon.call_error (Prod.ext herror rfl)
  intro events redraws
  change { b with events, redraws, daemon := (b.daemon.call request).2 }.sight =
    { b with events, redraws }.sight
  rw [hcall]
  rfl

theorem silent_findStep (b : Dashboard ρ) (row : ObjectRow) : Silent (findStep row) b := by
  cases row with
  | _ => exact b.silent_ask_of_changes_nil rfl

theorem silent_observe (b : Dashboard ρ) : Silent .observe b := by
  intro events redraws
  apply sight_of_sameObjects
  · intro kind
    unfold Daemon.observe
    split <;> cases kind <;> rfl
  · unfold Daemon.observe
    split <;> rfl

theorem orderly_failureScript (action : String) (error : BoardError) (b : Dashboard ρ) :
    Orderly (failureScript action error) b := by
  apply orderly_of_silent
  intro step hstep b events redraws
  simp only [failureScript, List.mem_cons, List.not_mem_nil, or_false] at hstep
  rcases hstep with rfl | rfl <;> rfl

/-! ## Scripts of operations -/

theorem orderly_keepScript (change : Snapshots → Snapshots) (view : View) (b : Dashboard ρ) :
    Orderly (keepScript change view) b :=
  orderly_append_refresh (.keep change :: viewScript view) b

theorem orderly_showScript (view : View) (b : Dashboard ρ) : Orderly (showScript view) b :=
  orderly_append_refresh (viewScript view) b

theorem orderly_askScript
    {b : Dashboard ρ} {request : Request α} {next : Except DaemonError α → List Step}
    (hrequest : request.operation.changes = [])
    (hnext : ∀ answer b, Orderly (next answer) (b : Dashboard ρ)) :
    Orderly (askScript b request next) b :=
  .cons_of_silent (b.silent_ask_of_changes_nil hrequest) (hnext _ _)

theorem orderly_loadScript
    (b : Dashboard ρ) (detail : Detail) {onError : BoardError → List Step}
    (herror : ∀ error b, Orderly (onError error) (b : Dashboard ρ)) :
    Orderly (loadScript b detail onError) b := by
  have hrequest : detail.request.operation.changes = [] := by
    cases detail <;> rfl
  apply orderly_askScript hrequest
  intro answer b
  cases answer with
  | ok data => exact orderly_keepScript _ _ b
  | error error => exact herror _ b

theorem orderly_detailScript (b : Dashboard ρ) (detail : Detail) :
    Orderly (detailScript b detail) b :=
  b.orderly_loadScript detail (orderly_failureScript _)

theorem orderly_hostScript (b : Dashboard ρ) : Orderly (hostScript b) b := by
  apply orderly_loadScript
  intro error b
  apply orderly_of_silent
  intro step hstep b events redraws
  simp only [List.mem_cons, List.not_mem_nil, or_false] at hstep
  rcases hstep with rfl | rfl <;> rfl

theorem orderly_rowScript
    (b : Dashboard ρ) (row : ObjectRow) (action : String)
    {next : String → Dashboard ρ → List Step}
    (hnext : ∀ id b', b'.clock = b.clock → b'.config = b.config → Orderly (next id b') b') :
    Orderly (rowScript b row action next) b := by
  refine .cons_of_silent (b.silent_findStep row) ?_
  rw [run_findStep, find_eq, foundScript]
  rcases row.objectId b.daemon with ⟨error | id, d⟩
  · exact orderly_failureScript _ _ _
  · exact hnext id _ rfl rfl

theorem orderly_openRowScript (b : Dashboard ρ) (r : RowDetail) :
    Orderly (openRowScript b r) b :=
  b.orderly_rowScript _ _ fun _ b _ _ => b.orderly_detailScript _

/-- An action asks for a redraw after its last change.  If it breaks off there is none. -/
theorem orderly_performScript
    (b : Dashboard ρ) (m : Mutation)
    (hclock : m = .prune → b.clock + b.config.reportTtl < Cache.horizon) :
    Orderly (performScript b m) b := by
  refine .cons_of_silent (fun _ _ => rfl) ?_
  change Orderly (askScript (b.say m.announcement) m.request (reportScript b m))
    (b.say m.announcement)
  -- a request that is answered may change the daemon, and has the redraw behind it
  cases hanswer : ((b.say m.announcement).daemon.call m.request).1 with
  | error error =>
      refine .cons_of_silent (silent_ask_of_error hanswer) ?_
      rw [hanswer]
      exact orderly_failureScript _ _ _
  | ok answer =>
      obtain ⟨cache, hkept, -⟩ := keepResult_keeps b m answer hclock
      have hreport : reportScript b m (.ok answer) =
          [.store cache, .log (m.successLog answer), .say (m.outcome answer)] ++ [.refresh] := by
        rw [reportScript, hkept]
        rfl
      rw [askScript, hanswer, hreport]
      exact orderly_append_refresh
        (.ask m.request :: [.store cache, .log (m.successLog answer), .say (m.outcome answer)]) _

theorem orderly_performRowScript (b : Dashboard ρ) (r : RowMutation) :
    Orderly (performRowScript b r) b := by
  apply orderly_rowScript
  intro id b' _ _
  apply orderly_performScript
  intro hprune
  exact absurd hprune (r.mutation_ne_prune id)

theorem orderly_listedScript
    (b : Dashboard ρ) {request : Request (List α)} (row : Nat) (what : String)
    {next : α → List Step} (hrequest : request.operation.changes = [])
    (hnext : ∀ item b, Orderly (next item) (b : Dashboard ρ)) :
    Orderly (listedScript b request row what next) b := by
  apply orderly_askScript hrequest
  intro answer b
  cases answer with
  | error error => exact .cons_of_silent (fun _ _ => rfl) trivial
  | ok items =>
      dsimp only
      cases items[row]? with
      | none => trivial
      | some item => exact hnext item b

theorem orderly_openScript (b : Dashboard ρ) (view : View) (row : Nat) :
    Orderly (openScript b view row) b := by
  cases view with
  | images => exact b.orderly_openRowScript _
  | networks => exact b.orderly_openRowScript _
  | services =>
      exact b.orderly_listedScript row "services" rfl fun _ => orderly_keepScript _ _
  | nodes =>
      exact b.orderly_listedScript row "nodes" rfl fun _ => orderly_keepScript _ _
  | _ => trivial

theorem orderly_removeScript (b : Dashboard ρ) (view : View) (row : Nat) :
    Orderly (removeScript b view row) b := by
  cases view with
  | containers | images | networks => exact b.orderly_performRowScript _
  | _ => trivial

theorem orderly_backScript (b : Dashboard ρ) : Orderly (backScript b) b :=
  orderly_append_refresh
    [.back, .log [.debug ("View mode -> " ++ b.navigation.main.debugName ++ " (back)")]] b

theorem orderly_sortScript (b : Dashboard ρ) : Orderly (sortScript b) b :=
  orderly_append_refresh
    [.rotateSort, .log [.debug ("Network sort -> " ++ b.navigation.sort.next.label)],
     .tellSort b.navigation.sort.next] b

theorem orderly_commandScript
    (b : Dashboard ρ) (command : Command) (view : View) (row : Nat)
    (hclock : command = .prune → b.clock + b.config.reportTtl < Cache.horizon) :
    Orderly (commandScript b command view row) b := by
  cases command with
  | quit | moveUp | moveDown => trivial
  | back => exact b.orderly_backScript
  | sortNetworks => exact b.orderly_sortScript
  | showNetworks => exact b.orderly_detailScript _
  | showInfo => exact b.orderly_hostScript
  | openSelected => exact b.orderly_openScript view row
  | history => exact b.orderly_openRowScript _
  | kill => exact b.orderly_performRowScript _
  | remove => exact b.orderly_removeScript view row
  | forceRemove => exact b.orderly_performRowScript _
  | removeAllStopped | removeDangling => exact b.orderly_performScript _ nofun
  | prune => exact b.orderly_performScript _ fun _ => hclock rfl
  -- all others show a screen
  | _ => exact orderly_showScript _ b

theorem orderly_gatherScript (b : Dashboard ρ) : Orderly (gatherScript b) b := by
  have hask {α : Type} {request : Request α} (hrequest : request.operation.changes = []) :
      Orderly [.ask request] b :=
    .cons_of_silent (b.silent_ask_of_changes_nil hrequest) trivial
  unfold gatherScript
  cases b.navigation.view with
  | containers | monitor | images | nodes | services => exact hask rfl
  | networks =>
      apply orderly_askScript rfl
      intro answer b
      cases answer with
      | ok networks => trivial
      | error error => exact .cons_of_silent (fun _ _ => rfl) trivial
  | serviceTasks =>
      cases b.snapshots.service with
      | none => trivial
      | some id => exact hask rfl
  | nodeTasks =>
      cases b.snapshots.node with
      | none => trivial
      | some id => exact hask rfl
  | _ => trivial

/-- The script of every operation is orderly, apart from activating a screen without a
redraw, and from a prune that breaks off. -/
theorem orderly_actionScript
    (b : Dashboard ρ) (action : Action) (hview : ∀ view, action ≠ .setView view)
    (hclock : action.Prunes → b.clock + b.config.reportTtl < Cache.horizon) :
    Orderly (actionScript b action) b := by
  cases action with
  | setView view => exact absurd rfl (hview view)
  | showView view => exact orderly_showScript view b
  | showMain => exact b.orderly_backScript
  | showServiceTasks id => exact orderly_keepScript _ _ b
  | showNodeTasks id => exact orderly_keepScript _ _ b
  | sortNetworks => exact b.orderly_sortScript
  | opening op =>
      cases op with
      | row r => exact b.orderly_openRowScript r
      | detail detail =>
          cases detail with
          | host =>
              change Orderly (loadScript b .host fun _ => []) b
              apply orderly_loadScript
              intro error b
              trivial
          | _ => exact b.orderly_detailScript _
  | change op =>
      cases op with
      | row r => exact b.orderly_performRowScript r
      | direct m =>
          apply orderly_performScript
          rintro rfl
          exact hclock trivial
  | lookup lookup =>
      refine .cons_of_silent (b.silent_ask_of_changes_nil ?_) trivial
      cases lookup <;> rfl
  | find row => exact .cons_of_silent (b.silent_findStep row) trivial
  | emit message => exact .cons_of_silent (fun _ _ => rfl) trivial
  | takeChannel => exact .cons_of_silent (fun _ _ => rfl) trivial
  | dispatch command cursor =>
      refine .cons_of_silent (fun _ _ => rfl) (orderly_commandScript _ command _ _ ?_)
      rintro rfl
      exact hclock trivial
  | gather status => exact b.orderly_gatherScript

/-! ## Scripts of the background work -/

theorem orderly_eventScripts (b : Dashboard ρ) (events : List DaemonEvent) :
    Orderly (events.flatMap eventScript) b := by
  induction events generalizing b with
  | nil => trivial
  | cons event events ih =>
      exact ⟨.inr List.mem_cons_self, .inl fun _ _ => rfl, ih _⟩

theorem orderly_settleScript (b : Dashboard ρ) : Orderly (settleScript b) b := by
  refine .cons_of_silent b.silent_observe ?_
  split
  · trivial
  · exact (orderly_eventScripts _ b.newEvents).append (.cons_of_silent (fun _ _ => rfl) trivial)

theorem orderly_joinScript (b : Dashboard ρ) : Orderly (joinScript b) b := by
  unfold joinScript
  split
  · trivial
  · exact b.orderly_settleScript.append (.cons_of_silent (fun _ _ => rfl) trivial)

end Dashboard

end ContainerBoard
