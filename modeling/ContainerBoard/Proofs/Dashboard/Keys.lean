import ContainerBoard.Proofs.Dashboard.Received
import ContainerBoard.Proofs.Dashboard.Script

/-!
# What keys change

Keys change only what their screen shows.  A screen offers certain demands on the daemon:
changes of objects, or another order of the network list.  What a command demands is
read off its script, and the default bindings bind on each screen only commands whose
demands the screen offers.
-/

namespace ContainerBoard

/-- What changes the daemon: an operation that changes objects, or an order of the
network list. -/
inductive Demand where
  | change (operation : Operation)
  | sort
  deriving DecidableEq

def View.offers : View → List Demand
  | containers => [.change .kill, .change .removeContainer, .change .removeStopped]
  | images => [.change .removeImage, .change .removeDangling]
  | networks => [.change .removeNetwork, .sort]
  | diskUsage => [.change .prune]
  | _ => []

/-- The screens whose keys may change objects of a kind. -/
def Resource.screens : Resource → List View
  | container => [.containers, .diskUsage]
  | image => [.images, .diskUsage]
  | network => [.networks, .diskUsage]
  | service => []
  | node => []

def Demand.changes : Demand → List Resource
  | change operation => operation.changes
  | sort => []

/-- What is offered on a screen changes only objects that belong to it. -/
theorem View.mem_screens_of_offers
    {view : View} {demand : Demand} {kind : Resource} (hoffer : demand ∈ view.offers)
    (hkind : kind ∈ demand.changes) : view ∈ kind.screens := by
  have hoffers : ∀ demand ∈ view.offers, ∀ kind ∈ demand.changes, view ∈ kind.screens := by
    cases view <;> decide
  exact hoffers demand hoffer kind hkind

namespace Command

def demand? : Command → View → Option Demand
  | kill, _ => some (.change .kill)
  | remove, .containers => some (.change .removeContainer)
  | remove, .images => some (.change .removeImage)
  | remove, .networks => some (.change .removeNetwork)
  | forceRemove, _ => some (.change .removeImage)
  | removeAllStopped, _ => some (.change .removeStopped)
  | removeDangling, _ => some (.change .removeDangling)
  | prune, _ => some (.change .prune)
  | sortNetworks, _ => some .sort
  | _, _ => none

end Command

/-! ## The default bindings -/

namespace Bindings

/-- A command that an event stands for on a screen is bound there or everywhere. -/
theorem exists_bound_of_commandFor
    {b : Bindings} {event : KeyEvent} {view : View} {command : Command}
    (hcommand : b.commandFor event view = some command) :
    ∃ scope combo, ((scope, combo), command) ∈ b.table.entries ∧
      (scope = some view ∨ scope = none) := by
  unfold commandFor at hcommand
  split at hcommand
  · cases hcommand
  · rcases Option.or_eq_some_iff.mp hcommand with hview | ⟨-, hglobal⟩
    · exact ⟨some view, _, KeyTable.mem_entries_of_get? hview, .inl rfl⟩
    · exact ⟨none, _, KeyTable.mem_entries_of_get? hglobal, .inr rfl⟩

/-- What is bound on a screen, there or everywhere, demands only what the screen
offers. -/
theorem offers_of_mem_defaults
    {view : View} {scope : BindingScope} {combo : KeyCombo} {command : Command}
    {demand : Demand} (hbound : ((scope, combo), command) ∈ defaults.table.entries)
    (hscope : scope = some view ∨ scope = none) (hdemand : command.demand? view = some demand) :
    demand ∈ view.offers := by
  have hentries : ∀ entry ∈ defaults.table.entries,
      entry.1.1 = some view ∨ entry.1.1 = none →
        ∀ demand ∈ entry.2.demand? view, demand ∈ view.offers := by
    cases view <;> decide +kernel
  exact hentries _ hbound hscope demand hdemand

theorem offers_of_commandFor
    {event : KeyEvent} {view : View} {command : Command} {demand : Demand}
    (hcommand : defaults.commandFor event view = some command)
    (hdemand : command.demand? view = some demand) : demand ∈ view.offers := by
  obtain ⟨scope, combo, hbound, hscope⟩ := exists_bound_of_commandFor hcommand
  exact offers_of_mem_defaults hbound hscope hdemand

/-- The character whose key stands for a demand. -/
def charOf : Demand → Char
  | .change .kill => 'K'
  | .change .removeStopped => 'S'
  | .change .removeDangling => 'D'
  | .change .prune => 'p'
  | .change _ => 'r'
  | .sort => 's'

/-- Whatever a screen offers, there is a key for it. -/
theorem exists_commandFor_of_offers
    {view : View} {demand : Demand} (hoffer : demand ∈ view.offers) :
    ∃ event command, defaults.commandFor event view = some command ∧
      command.demand? view = some demand := by
  have hkey : ∀ demand ∈ view.offers,
      (defaults.commandFor { code := .char (charOf demand) } view).bind
        (fun command => command.demand? view) = some demand := by
    cases view <;> decide +kernel
  obtain ⟨command, hcommand, hdemand⟩ := Option.bind_eq_some_iff.mp (hkey demand hoffer)
  exact ⟨_, command, hcommand, hdemand⟩

end Bindings

namespace Dashboard

variable {ρ α : Type}

/-! ## What scripts demand -/

def Step.demand? : Step → Option Demand
  | .ask request =>
    if request.operation.changes = [] then none else some (.change request.operation)
  | .tellSort _ => some .sort
  | _ => none

/-- What a script demands of the daemon. -/
def demands (script : List Step) : List Demand :=
  script.filterMap Step.demand?

theorem demands_askScript
    (b : Dashboard ρ) {request : Request α} (next : Except DaemonError α → List Step)
    (hrequest : request.operation.changes = []) :
    demands (askScript b request next) = demands (next (b.daemon.call request).1) := by
  have hstep : (Step.ask request).demand? = none := if_pos hrequest
  exact List.filterMap_cons_none hstep

theorem demands_loadScript
    (b : Dashboard ρ) (detail : Detail) {onError : BoardError → List Step}
    (herror : ∀ error, demands (onError error) = []) :
    demands (loadScript b detail onError) = [] := by
  have hrequest : detail.request.operation.changes = [] := by
    cases detail <;> rfl
  rw [loadScript, demands_askScript b _ hrequest]
  cases (b.daemon.call detail.request).1 with
  | ok data => rfl
  | error error => exact herror _

theorem demands_rowScript
    (b : Dashboard ρ) (row : ObjectRow) (action : String)
    {next : String → Dashboard ρ → List Step} {allowed : List Demand}
    (hnext : ∀ id b, demands (next id b) ⊆ allowed) :
    demands (rowScript b row action next) ⊆ allowed := by
  have hfind : demands (rowScript b row action next) =
      demands (foundScript b row action next) := by
    cases row <;> rfl
  rw [hfind, foundScript]
  rcases row.objectId b.daemon with ⟨error | id, d⟩
  · exact List.nil_subset _
  · exact hnext id _

theorem demands_openRowScript (b : Dashboard ρ) (r : RowDetail) :
    demands (openRowScript b r) = [] := by
  refine List.eq_nil_of_subset_nil (b.demands_rowScript _ _ fun id b => ?_)
  rw [detailScript, b.demands_loadScript _ fun _ => rfl]
  exact List.nil_subset _

/-- An action demands the change that it is. -/
theorem demands_performScript (b : Dashboard ρ) (m : Mutation) :
    demands (performScript b m) = [.change m.request.operation] := by
  have hchanges : m.request.operation.changes ≠ [] := by
    cases m <;> exact List.cons_ne_nil _ _
  have hstep : (Step.ask m.request).demand? = some (.change m.request.operation) :=
    if_neg hchanges
  have hreport (answer : Except DaemonError m.Answer) :
      demands (reportScript b m answer) = [] := by
    cases answer with
    | error error => rfl
    | ok answer =>
        rw [reportScript]
        cases b.keepResult m answer <;> rfl
  calc
    demands (performScript b m) =
        .change m.request.operation ::
          demands (reportScript b m ((b.say m.announcement).daemon.call m.request).1) :=
      List.filterMap_cons_some hstep
    _ = [.change m.request.operation] := by rw [hreport]

theorem demands_performRowScript (b : Dashboard ρ) (r : RowMutation) :
    demands (performRowScript b r) ⊆ [.change (r.mutation "").request.operation] := by
  refine b.demands_rowScript _ _ fun id b => ?_
  rw [demands_performScript]
  cases r <;> exact List.Subset.refl _

theorem demands_openScript (b : Dashboard ρ) (view : View) (row : Nat) :
    demands (openScript b view row) = [] := by
  cases view with
  | images => exact b.demands_openRowScript _
  | networks => exact b.demands_openRowScript _
  | services =>
      rw [openScript, listedScript, b.demands_askScript _ rfl]
      cases (b.daemon.call .services).1 with
      | error error => rfl
      | ok services => dsimp only; cases services[row]? <;> rfl
  | nodes =>
      rw [openScript, listedScript, b.demands_askScript _ rfl]
      cases (b.daemon.call .nodes).1 with
      | error error => rfl
      | ok nodes => dsimp only; cases nodes[row]? <;> rfl
  | _ => rfl

/-- A command demands nothing but what is said of it. -/
theorem demands_commandScript (b : Dashboard ρ) (command : Command) (view : View) (row : Nat) :
    demands (commandScript b command view row) ⊆ (command.demand? view).toList := by
  cases command with
  | showNetworks =>
      rw [commandScript, detailScript, b.demands_loadScript _ fun _ => rfl]
      exact List.nil_subset _
  | showInfo =>
      rw [commandScript, hostScript, b.demands_loadScript _ fun _ => rfl]
      exact List.nil_subset _
  | openSelected =>
      rw [commandScript, demands_openScript]
      exact List.nil_subset _
  | history =>
      rw [commandScript, demands_openRowScript]
      exact List.nil_subset _
  | kill => exact b.demands_performRowScript _
  | remove =>
      cases view with
      | containers => exact b.demands_performRowScript (.removeContainer row)
      | images => exact b.demands_performRowScript (.removeImage row false)
      | networks => exact b.demands_performRowScript (.removeNetwork row)
      | _ => exact List.nil_subset _
  | forceRemove => exact b.demands_performRowScript _
  | removeAllStopped | removeDangling | prune =>
      rw [commandScript, demands_performScript]
      exact List.Subset.refl _
  -- all others ask the daemon for nothing
  | _ => exact List.Subset.refl _

theorem demands_dispatchScript (b : Dashboard ρ) (command : Command) (cursor : Cursor) :
    demands (dispatchScript b command cursor) ⊆
      (command.demand? b.navigation.view).toList :=
  demands_commandScript _ command _ _

/-! ## Following scripts -/

variable [Refresh ρ]

/-- A step changes only what it demands to change. -/
theorem sameObjects_run
    {b : Dashboard ρ} {step : Step} {kind : Resource}
    (hkind : ∀ demand ∈ step.demand?, kind ∉ demand.changes) :
    b.daemon.SameObjects (step.run b).daemon kind := by
  cases step with
  | ask request =>
      apply Daemon.sameObjects_call
      by_cases hchanges : request.operation.changes = []
      · simp [hchanges]
      · exact hkind _ (if_neg hchanges)
  | observe =>
      change b.daemon.SameObjects b.daemon.observe kind
      unfold Daemon.observe
      split <;> cases kind <;> rfl
  | close =>
      change b.daemon.SameObjects b.close.daemon kind
      unfold close Daemon.cancel
      split
      · exact Daemon.SameObjects.refl _ kind
      · dsimp only
        split <;> cases kind <;> rfl
  -- all others leave the objects of the daemon alone
  | _ => cases kind <;> rfl

/-- A step leaves the order of the network list alone unless it demands another one. -/
theorem sort_run
    {b : Dashboard ρ} {step : Step} (hsort : step.demand? ≠ some .sort) :
    (step.run b).daemon.sort = b.daemon.sort ∧
      (step.run b).daemon.directives = b.daemon.directives := by
  cases step with
  | ask request => exact Daemon.sort_call b.daemon request
  | tellSort mode => exact absurd rfl hsort
  | observe =>
      change b.daemon.observe.sort = _ ∧ b.daemon.observe.directives = _
      unfold Daemon.observe
      split <;> exact ⟨rfl, rfl⟩
  | close =>
      change b.close.daemon.sort = _ ∧ b.close.daemon.directives = _
      unfold close Daemon.cancel
      split
      · exact ⟨rfl, rfl⟩
      · dsimp only
        split <;> exact ⟨rfl, rfl⟩
  -- all others tell the daemon nothing
  | _ => exact ⟨rfl, rfl⟩

/-- What every step of a script keeps of the daemon is kept by the script. -/
theorem follow_keeps
    {R : Daemon → Daemon → Prop} (hrefl : ∀ d, R d d)
    (htrans : ∀ {d d₁ d₂}, R d d₁ → R d₁ d₂ → R d d₂) {script : List Step}
    (hstep : ∀ step ∈ script, ∀ b : Dashboard ρ, R b.daemon (step.run b).daemon)
    (b : Dashboard ρ) : R b.daemon (b.follow script).daemon := by
  induction script generalizing b with
  | nil => exact hrefl b.daemon
  | cons step script ih =>
      have hfirst : R b.daemon (step.run b).daemon := hstep step List.mem_cons_self b
      have hrest : R (step.run b).daemon ((step.run b).follow script).daemon := by
        apply ih
        intro later hlater
        exact hstep later (List.mem_cons_of_mem step hlater)
      exact htrans hfirst hrest

theorem mem_demands
    {script : List Step} {step : Step} {demand : Demand} (hstep : step ∈ script)
    (hdemand : step.demand? = some demand) : demand ∈ demands script :=
  List.mem_filterMap.mpr ⟨step, hstep, hdemand⟩

/-- A script changes only what it demands to change. -/
theorem sameObjects_follow
    {script : List Step} {kind : Resource} (b : Dashboard ρ)
    (hkind : ∀ demand ∈ demands script, kind ∉ demand.changes) :
    b.daemon.SameObjects (b.follow script).daemon kind := by
  refine follow_keeps (R := fun d d' => d.SameObjects d' kind)
    (fun d => Daemon.SameObjects.refl d kind) Daemon.SameObjects.trans ?_ b
  intro step hstep b
  apply sameObjects_run
  intro demand hdemand
  exact hkind demand (mem_demands hstep hdemand)

theorem sort_follow
    {script : List Step} (b : Dashboard ρ) (hsort : Demand.sort ∉ demands script) :
    (b.follow script).daemon.sort = b.daemon.sort ∧
      (b.follow script).daemon.directives = b.daemon.directives := by
  refine follow_keeps
    (R := fun d d' => d'.sort = d.sort ∧ d'.directives = d.directives)
    (fun _ => ⟨rfl, rfl⟩)
    (fun hearlier hlater => ⟨hlater.1.trans hearlier.1, hlater.2.trans hearlier.2⟩) ?_ b
  intro step hstep b
  exact sort_run fun hdemand => hsort (mem_demands hstep hdemand)

theorem daemon_performNow (b : Dashboard ρ) (m : Mutation) :
    (b.performNow m).daemon = (b.daemon.call m.request).2 := by
  unfold performNow
  rcases h : b.daemon.call m.request with ⟨error | answer, d⟩
  · rw [perform_of_error h]
    rfl
  · rcases hkept : b.keepResult m answer with overflow | cache
    · rw [perform_of_overflow h hkept]
    · rw [perform_of_ok h hkept]
      rfl

/-! ## Pressing keys -/

/-- Does what the default bindings say about a key on the active screen. -/
def press (b : Dashboard ρ) (event : KeyEvent) (cursor : Cursor) : Dashboard ρ :=
  match Bindings.defaults.commandFor event b.navigation.view with
  | some command => (b.dispatch command cursor).dashboard
  | none => b

/-- Presses keys one after the other. -/
def pressAll (b : Dashboard ρ) (keys : List (KeyEvent × Cursor)) : Dashboard ρ :=
  keys.foldl (fun b key => b.press key.1 key.2) b

/-- A key that does something demands only what its screen offers. -/
theorem press_cases (b : Dashboard ρ) (event : KeyEvent) (cursor : Cursor) :
    b.press event cursor = b ∨
      ∃ command,
        b.press event cursor = b.follow (dispatchScript b command cursor) ∧
          ∀ demand ∈ demands (dispatchScript b command cursor),
            command.demand? b.navigation.view = some demand ∧
              demand ∈ b.navigation.view.offers := by
  unfold press
  cases hcommand : Bindings.defaults.commandFor event b.navigation.view with
  | none => exact .inl rfl
  | some command =>
      refine .inr ⟨command, (b.follow_dispatchScript command cursor).symm, ?_⟩
      intro demand hdemand
      have hsome : command.demand? b.navigation.view = some demand :=
        Option.mem_toList.mp (b.demands_dispatchScript command cursor hdemand)
      exact ⟨hsome, Bindings.offers_of_commandFor hcommand hsome⟩

theorem sameObjects_press
    {b : Dashboard ρ} {kind : Resource} (hview : b.navigation.view ∉ kind.screens)
    (event : KeyEvent) (cursor : Cursor) :
    b.daemon.SameObjects (b.press event cursor).daemon kind := by
  rcases b.press_cases event cursor with hnothing | ⟨command, hpress, hdemands⟩
  · rw [hnothing]
    exact Daemon.SameObjects.refl _ kind
  · rw [hpress]
    apply b.sameObjects_follow
    intro demand hdemand hkind
    obtain ⟨-, hoffer⟩ := hdemands demand hdemand
    exact hview (View.mem_screens_of_offers hoffer hkind)

theorem sort_press
    {b : Dashboard ρ} (hview : b.navigation.view ≠ .networks) (event : KeyEvent)
    (cursor : Cursor) :
    (b.press event cursor).daemon.sort = b.daemon.sort ∧
      (b.press event cursor).daemon.directives = b.daemon.directives := by
  rcases b.press_cases event cursor with hnothing | ⟨command, hpress, hdemands⟩
  · rw [hnothing]
    exact ⟨rfl, rfl⟩
  · rw [hpress]
    apply b.sort_follow
    intro hsort
    obtain ⟨-, hoffer⟩ := hdemands _ hsort
    have honly : ∀ view : View, Demand.sort ∈ view.offers → view = .networks := by
      intro view
      cases view <;> decide
    exact hview (honly _ hoffer)

/-- Where the disk usage is shown, keys change objects only by a prune. -/
theorem prune_of_press
    {b : Dashboard ρ} (hview : b.navigation.view = .diskUsage) (event : KeyEvent)
    (cursor : Cursor) :
    (∀ kind, b.daemon.SameObjects (b.press event cursor).daemon kind) ∨
      (b.press event cursor).daemon = (b.daemon.call .prune).2 := by
  rcases b.press_cases event cursor with hnothing | ⟨command, hpress, hdemands⟩
  · rw [hnothing]
    exact .inl (Daemon.SameObjects.refl _)
  · rw [hpress]
    -- of the commands that demand a prune there is only one
    by_cases hprune : command = .prune
    · subst hprune
      obtain ⟨lines, hdispatch⟩ := b.dashboard_dispatch .prune cursor
      rw [follow_dispatchScript, hdispatch]
      exact .inr (daemon_performNow (b.log lines) .prune)
    · refine .inl fun kind => b.sameObjects_follow ?_
      intro demand hdemand
      obtain ⟨hsome, hoffer⟩ := hdemands demand hdemand
      rw [hview] at hsome hoffer
      have hpruned : demand = .change .prune := List.mem_singleton.mp hoffer
      subst hpruned
      cases command <;> simp [Command.demand?] at hsome hprune

/-- Keys on screens that show no objects change none. -/
theorem sameObjects_pressAll
    {b : Dashboard ρ} {kind : Resource} {keys : List (KeyEvent × Cursor)}
    (hview : ∀ earlier key later, keys = earlier ++ key :: later →
      (b.pressAll earlier).navigation.view ∉ kind.screens) :
    b.daemon.SameObjects (b.pressAll keys).daemon kind := by
  induction keys generalizing b with
  | nil => exact Daemon.SameObjects.refl _ kind
  | cons key keys ih =>
      have hfirst : b.daemon.SameObjects (b.press key.1 key.2).daemon kind :=
        sameObjects_press (hview [] key keys rfl) key.1 key.2
      have hrest : (b.press key.1 key.2).daemon.SameObjects
          ((b.press key.1 key.2).pressAll keys).daemon kind := by
        apply ih
        rintro earlier later rest rfl
        exact hview (key :: earlier) later rest rfl
      exact hfirst.trans hrest

/-- A key changes only what its screen shows: containers, images and networks each on
their own screen and where the disk usage is shown, where a prune is all that changes
anything; the order of networks on their own screen; and nothing anywhere else.  Letting
a key go does nothing.  There is a key for everything that a screen offers. -/
theorem keys_change_what_is_shown (b : Dashboard ρ) :
    (∀ event cursor kind, b.navigation.view ∉ Resource.screens kind →
        b.daemon.SameObjects (b.press event cursor).daemon kind) ∧
      (∀ event cursor, b.navigation.view ≠ .networks →
        (b.press event cursor).daemon.sort = b.daemon.sort ∧
          (b.press event cursor).daemon.directives = b.daemon.directives) ∧
      (∀ event cursor, b.navigation.view = .diskUsage →
        (∀ kind, b.daemon.SameObjects (b.press event cursor).daemon kind) ∨
          (b.press event cursor).daemon = (b.daemon.call .prune).2) ∧
      (∀ event cursor, event.kind = .release → b.press event cursor = b) ∧
      (∀ demand ∈ b.navigation.view.offers, ∃ event command,
        Bindings.defaults.commandFor event b.navigation.view = some command ∧
          command.demand? b.navigation.view = some demand) ∧
      ∀ keys,
        (∀ earlier key later, keys = earlier ++ key :: later →
          (b.pressAll earlier).navigation.view ∉
            [.containers, .images, .networks, .diskUsage]) →
        ∀ kind, b.daemon.SameObjects (b.pressAll keys).daemon kind := by
  refine ⟨?_, ?_, ?_, ?_, ?_, ?_⟩
  · intro event cursor kind hview
    exact sameObjects_press hview event cursor
  · intro event cursor hview
    exact sort_press hview event cursor
  · intro event cursor hview
    exact prune_of_press hview event cursor
  · intro event cursor hrelease
    have hcommand : Bindings.defaults.commandFor event b.navigation.view = none :=
      if_pos hrelease
    rw [press, hcommand]
  · intro demand hoffer
    exact Bindings.exists_commandFor_of_offers hoffer
  · intro keys helsewhere kind
    apply sameObjects_pressAll
    intro earlier key later hkeys hview
    apply helsewhere earlier key later hkeys
    have hfour : ∀ kind : Resource,
        kind.screens ⊆ [.containers, .images, .networks, .diskUsage] := by
      intro kind
      cases kind <;> decide
    exact hfour kind hview

end Dashboard

end ContainerBoard
