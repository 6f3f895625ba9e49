import ContainerBoard.Daemon.Sample
import ContainerBoard.Proofs.Dashboard.Sorting

/-!
# Lists of networks

Networks are listed for their screen, whenever it is gathered, and for the snapshot
behind it.  The header of that screen names an order, and every list comes in it.
-/

namespace ContainerBoard

namespace ScreenModel

/-- The header names an order of the networks. -/
def HeaderNames (m : ScreenModel) (mode : SortMode) : Prop :=
  ∃ span ∈ m.headerLine.spans, span.text = "  sort: " ++ mode.label

/-- Only on the screen of the networks an order is named, and that is the one of the
dashboard. -/
theorem headerNames_iff {m : ScreenModel} {mode : SortMode} :
    m.HeaderNames mode ↔ m.view = .networks ∧ m.sort = mode := by
  have htitle : ∀ view : View, view.title ≠ "  sort: " ++ mode.label := by
    intro view
    cases view <;> cases mode <;> decide
  have hlabel : "  sort: " ++ m.sort.label = "  sort: " ++ mode.label ↔ m.sort = mode := by
    cases m.sort <;> cases mode <;> decide
  have hname : " dockdeck " ≠ "  sort: " ++ mode.label := by cases mode <;> decide
  have hbar : "│ " ≠ "  sort: " ++ mode.label := by cases mode <;> decide
  have hhelp : "  ? help" ≠ "  sort: " ++ mode.label := by cases mode <;> decide
  by_cases hview : m.view = .networks
  · simp [HeaderNames, headerLine, hview, htitle, hname, hbar, hhelp, hlabel]
  · simp [HeaderNames, headerLine, hview, htitle, hname, hbar, hhelp]

end ScreenModel

/-- An operation that shows the networks with a new snapshot behind their screen. -/
inductive Action.ShowsNetworks : Action → Prop where
  | opening : ShowsNetworks (.opening (.detail .networks))
  | dispatch (cursor : Cursor) : ShowsNetworks (.dispatch .showNetworks cursor)

namespace Dashboard

variable {ρ : Type}

/-! ## Single lists -/

theorem call_of_fetch_ok
    {α : Type} {b : Dashboard ρ} {request : Request α} {value : α}
    (h : (b.fetch request).1 = .ok value) : (b.daemon.call request).1 = .ok value := by
  have hfetch : (b.fetch request).1 = (b.daemon.call request).1.mapError .daemon := rfl
  rw [hfetch] at h
  cases hcall : (b.daemon.call request).1 with
  | error error =>
      rw [hcall] at h
      cases h
  | ok found =>
      rw [hcall] at h
      cases h
      rfl

/-- A dashboard that agrees with its daemon gets the networks in its own order. -/
theorem orders_of_call
    {b : Dashboard ρ} {networks : List Network}
    (hagree : b.navigation.sort = b.daemon.sort)
    (hlisted : (b.daemon.call .networks).1 = .ok networks) :
    b.navigation.sort.Orders b.daemon.networks networks := by
  rw [hagree]
  exact Daemon.orders_call_networks (Prod.ext hlisted rfl)

/-- The screen of the networks shows the list that it got. -/
theorem screen_networks
    {b : Dashboard ρ} {networks : List Network} (hview : b.navigation.view = .networks)
    (hlisted : (b.fetch .networks).1 = .ok networks) (status : Option String) :
    (b.screen status).1 =
      { view := .networks
        sort := b.navigation.sort
        body := .list (networks.map Row.network)
        status } := by
  have hbody : b.body.1 = .list (networks.map Row.network) := by
    unfold body networksBody
    rw [hview]
    rcases hfetch : b.fetch .networks with ⟨answer, b'⟩
    rw [hfetch] at hlisted
    cases hlisted
    rfl
  unfold screen
  rw [← hbody, ← hview]

/-! ## Lists in the course of operations -/

variable {b : Dashboard ρ} {action : Action}

theorem turnsSort_of_mem_actionScript
    {α : Type} {request : Request α} (hask : .ask request ∈ actionScript b action) :
    action.turnsSort = false := by
  cases action with
  | sortNetworks => simp [actionScript, sortScript] at hask
  | dispatch command cursor =>
      cases command with
      | sortNetworks => simp [actionScript, dispatchScript, commandScript, sortScript] at hask
      | _ => rfl
  | _ => rfl

variable [Refresh ρ]

/-- The networks are listed at some moment in the course of an operation. -/
structure Lists (b : Dashboard ρ) (action : Action) (moment : Dashboard ρ)
    (networks : List Network) : Prop where
  reached : ∃ earlier later,
    actionScript b action = earlier ++ .ask .networks :: later ∧ moment = b.follow earlier
  answered : (moment.daemon.call .networks).1 = .ok networks

/-- While an operation lists networks, the order is not turned. -/
theorem Lists.sorting_eq
    {moment : Dashboard ρ} {networks : List Network} (h : b.Lists action moment networks) :
    moment.sorting = b.sorting := by
  obtain ⟨earlier, later, hscript, rfl⟩ := h.reached
  have hask : .ask Request.networks ∈ actionScript b action := by
    rw [hscript]
    exact List.mem_append_right earlier List.mem_cons_self
  have hkeeps := b.keepsSort_actionScript (turnsSort_of_mem_actionScript hask)
  rw [hscript, keepsSort_append, Bool.and_eq_true] at hkeeps
  exact sorting_follow hkeeps.1

theorem Lists.orders
    {moment : Dashboard ρ} {networks : List Network}
    (hagree : b.navigation.sort = b.daemon.sort) (h : b.Lists action moment networks) :
    moment.navigation.sort = b.navigation.sort ∧
      b.navigation.sort.Orders moment.daemon.networks networks := by
  have hsorting := h.sorting_eq
  have hshown : moment.navigation.sort = b.navigation.sort :=
    congrArg Sorting.shown hsorting
  have hinForce : moment.daemon.sort = b.daemon.sort := congrArg Sorting.inForce hsorting
  have hstill : moment.navigation.sort = moment.daemon.sort := by
    rw [hshown, hinForce, hagree]
  have horders := orders_of_call hstill h.answered
  rw [hshown] at horders
  exact ⟨hshown, horders⟩

theorem act_of_showsNetworks (b : Dashboard ρ) (hshows : action.ShowsNetworks) :
    ∃ lines, b.act action = (b.log lines).openDetail .networks := by
  cases hshows with
  | opening => exact ⟨[], rfl⟩
  | dispatch cursor => exact ⟨_, rfl⟩

/-- What an operation that shows the networks leaves, if they can be listed. -/
theorem shows_of_showsNetworks
    {networks : List Network} (hshows : action.ShowsNetworks)
    (hlisted : (b.daemon.call .networks).1 = .ok networks) :
    (b.act action).snapshots.networks = some networks ∧
      (b.act action).navigation.view = .networks := by
  obtain ⟨lines, hact⟩ := b.act_of_showsNetworks hshows
  rcases hcall : b.daemon.call .networks with ⟨answer, d⟩
  obtain rfl : answer = .ok networks := by
    rw [hcall] at hlisted
    exact hlisted
  have hlater : (b.log lines).daemon.call Detail.networks.request = (.ok networks, d) := hcall
  rw [hact]
  unfold openDetail load fetch ask
  rw [hlater]
  exact ⟨rfl, rfl⟩

/-! ## Lists in a whole life -/

/-- The order of the networks is agreed on.  Whatever happens to a dashboard, with any
failures of its daemon, both keep the same order, and the daemon was told the first one
and then one for each turn.

So every list of networks comes in the order of the dashboard: in the course of any
operation, on the screen of the networks, and for the snapshot behind it.  The header of
the screen names that order, and no other. -/
theorem networks_come_in_named_order
    {daemon : Daemon} {redraws : ρ} {config : Config} {b₀ : Dashboard ρ}
    (hstart : start daemon redraws config = .ok b₀) (moves : List Move) :
    let b := (Life.ofMoves b₀ moves).board
    let mode := b.navigation.sort
    mode = b.daemon.sort ∧
      b.daemon.directives =
        daemon.directives ++
          List.iterate SortMode.next config.initialSort (Life.turns moves + 1) ∧
      (∀ action moment networks, b.Lists action moment networks →
        moment.navigation.sort = mode ∧ mode.Orders moment.daemon.networks networks) ∧
      ∀ networks, (b.fetch .networks).1 = .ok networks →
        mode.Orders b.daemon.networks networks ∧
          (∀ status named, b.navigation.view = .networks →
            (b.screen status).1.body = .list (networks.map Row.network) ∧
              ((b.screen status).1.HeaderNames named ↔ named = mode)) ∧
          ∀ action, action.ShowsNetworks →
            (b.act action).snapshots.networks = some networks ∧
              ∀ status named,
                ((b.act action).screen status).1.HeaderNames named ↔ named = mode := by
  intro b mode
  have hsorting := Life.sorting_ofMoves hstart moves
  have hshown : mode = SortMode.next^[Life.turns moves] config.initialSort :=
    congrArg Sorting.shown hsorting
  have hinForce : b.daemon.sort = SortMode.next^[Life.turns moves] config.initialSort :=
    congrArg Sorting.inForce hsorting
  have hagree : mode = b.daemon.sort := hshown.trans hinForce.symm
  refine ⟨hagree, congrArg Sorting.told hsorting, fun _ _ _ h => h.orders hagree, ?_⟩
  intro networks hlisted
  have hcall := call_of_fetch_ok hlisted
  refine ⟨orders_of_call hagree hcall, ?_, ?_⟩
  · intro status named hview
    have hscreen := screen_networks hview hlisted status
    rw [ScreenModel.headerNames_iff, hscreen]
    exact ⟨rfl, by simp [mode, eq_comm]⟩
  · intro action hshows
    obtain ⟨hsnapshot, hview⟩ := shows_of_showsNetworks hshows hcall
    refine ⟨hsnapshot, ?_⟩
    intro status named
    have hsort : (b.act action).navigation.sort = mode := by
      have hact := b.sorting_act action
      have hturn : action.turnsSort = false := by
        cases hshows <;> rfl
      rw [hturn] at hact
      exact congrArg Sorting.shown hact
    have hscreen : ((b.act action).screen status).1.view = .networks ∧
        ((b.act action).screen status).1.sort = mode := ⟨hview, hsort⟩
    rw [ScreenModel.headerNames_iff, hscreen.1, hscreen.2]
    simp [eq_comm]

/-- Opened with the networks by name, their order is turned once while they cannot be
listed and once more afterwards. -/
theorem order_turned_twice :
    let config : Config := { (default : Config) with initialSort := .byName }
    let moves : List Move :=
      [.fail .networks (.timeout "list"), .act .sortNetworks, .act (.gather none),
        .clearFailure .networks, .act (.dispatch .sortNetworks default)]
    ∃ b₀ : Dashboard RedrawCount,
      start Sample.daemon ({} : RedrawCount) config = .ok b₀ ∧
        let b := (Life.ofMoves b₀ moves).board
        b.navigation.sort = .byId ∧ b.daemon.sort = .byId ∧
          b.daemon.directives = [.byName, .byDriver, .byId] ∧
          ∃ networks,
            (b.act (.opening (.detail .networks))).snapshots.networks = some networks ∧
              SortMode.byId.Orders b.daemon.networks networks := by
  intro config moves
  obtain ⟨b₀, hstart, hmode, hturns, htold, networks, hlisted⟩ :
      ∃ b₀ : Dashboard RedrawCount,
        start Sample.daemon ({} : RedrawCount) config = .ok b₀ ∧
          (Life.ofMoves b₀ moves).board.navigation.sort = .byId ∧
          Life.turns moves = 2 ∧ Sample.daemon.directives = [] ∧
          ∃ networks, ((Life.ofMoves b₀ moves).board.fetch .networks).1 = .ok networks := by
    exact ⟨_, rfl, rfl, rfl, rfl, _, rfl⟩
  obtain ⟨hagree, hdirectives, -, hlists⟩ := networks_come_in_named_order hstart moves
  obtain ⟨horders, -, hshows⟩ := hlists networks hlisted
  obtain ⟨hsnapshot, -⟩ := hshows _ .opening
  rw [hmode] at hagree horders
  rw [hturns, htold] at hdirectives
  exact ⟨b₀, hstart, hmode, hagree.symm, hdirectives, networks, hsnapshot, horders⟩

end Dashboard

end ContainerBoard
