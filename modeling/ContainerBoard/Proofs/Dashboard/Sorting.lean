import ContainerBoard.Proofs.Daemon.NetworkOrder
import ContainerBoard.Proofs.Dashboard.Keys
import ContainerBoard.Proofs.Dashboard.Lifespan
import ContainerBoard.Screen.Draw
import Mathlib.Data.List.Iterate

/-!
# The order of the networks

A dashboard and its daemon keep the order of the network list each on their own.  The
daemon is told the order when the dashboard starts and whenever it is turned, and nothing
else changes either of them.  So they agree all the time, and every list of networks comes
in the order that the header names.
-/

namespace ContainerBoard

namespace Daemon

theorem sort_inject (d : Daemon) (event : DaemonEvent) :
    (d.inject event).2.sort = d.sort ∧ (d.inject event).2.directives = d.directives := by
  unfold inject
  split
  · exact ⟨rfl, rfl⟩
  · split <;> exact ⟨rfl, rfl⟩

end Daemon

namespace Dashboard

variable {ρ α : Type}

/-! ## What is kept of the order -/

/-- The order of the networks as the dashboard and the daemon keep it. -/
structure Sorting where
  shown : SortMode
  inForce : SortMode
  /-- The orders that the daemon was told, oldest first. -/
  told : List SortMode

namespace Sorting

/-- A daemon that was just told its first order by the dashboard. -/
def start (told : List SortMode) (mode : SortMode) : Sorting :=
  ⟨mode, mode, told ++ [mode]⟩

/-- The order is turned, and the daemon told. -/
def turn (s : Sorting) : Sorting :=
  ⟨s.shown.next, s.shown.next, s.told ++ [s.shown.next]⟩

theorem turn_iterate_start (told : List SortMode) (mode : SortMode) (turns : Nat) :
    turn^[turns] (start told mode) =
      ⟨SortMode.next^[turns] mode, SortMode.next^[turns] mode,
        told ++ List.iterate SortMode.next mode (turns + 1)⟩ := by
  induction turns with
  | zero => rfl
  | succ turns ih =>
      rw [Function.iterate_succ_apply', ih, turn, List.append_assoc,
        ← Function.iterate_succ_apply' SortMode.next]
      congr 2
      exact (List.iterate_add SortMode.next mode (turns + 1) 1).symm

end Sorting

def sorting (b : Dashboard ρ) : Sorting :=
  ⟨b.navigation.sort, b.daemon.sort, b.daemon.directives⟩

theorem sorting_start
    {daemon : Daemon} {redraws : ρ} {config : Config} {b : Dashboard ρ}
    (hstart : start daemon redraws config = .ok b) :
    b.sorting = .start daemon.directives config.initialSort := by
  have hkept := (daemon.sort_call .subscribe).2
  unfold start at hstart
  rcases hcall : daemon.call .subscribe with ⟨error | place, d⟩
  · rw [hcall] at hstart
    cases hstart
  · rw [hcall] at hstart hkept
    cases hstart
    have htold : d.directives = daemon.directives := hkept
    have hshown : (Navigation.start default config.initialSort).sort = config.initialSort :=
      rfl
    unfold sorting Sorting.start Daemon.sortNetworks
    rw [htold, hshown]

/-! ## Scripts that keep the order -/

/-- Whether a step concerns the order neither here nor at the daemon. -/
def Step.keepsSort : Step → Bool
  | rotateSort => false
  | tellSort _ => false
  | _ => true

def keepsSort (script : List Step) : Bool :=
  script.all Step.keepsSort

theorem keepsSort_append {script later : List Step} :
    keepsSort (script ++ later) = (keepsSort script && keepsSort later) :=
  List.all_append

theorem keepsSort_loadScript
    (b : Dashboard ρ) (detail : Detail) {onError : BoardError → List Step}
    (herror : ∀ error, keepsSort (onError error) = true) :
    keepsSort (loadScript b detail onError) = true := by
  unfold loadScript askScript
  cases (b.daemon.call detail.request).1 with
  | ok data => rfl
  | error error => exact herror _

theorem keepsSort_detailScript (b : Dashboard ρ) (detail : Detail) :
    keepsSort (detailScript b detail) = true := by
  rw [detailScript]
  exact b.keepsSort_loadScript detail fun _ => rfl

theorem keepsSort_rowScript
    (b : Dashboard ρ) (row : ObjectRow) (action : String)
    {next : String → Dashboard ρ → List Step}
    (hnext : ∀ id b, keepsSort (next id b) = true) :
    keepsSort (rowScript b row action next) = true := by
  have hfind : (findStep row).keepsSort = true := by
    cases row <;> rfl
  have hfound : keepsSort (foundScript b row action next) = true := by
    unfold foundScript
    rcases row.objectId b.daemon with ⟨error | id, d⟩
    · rfl
    · exact hnext id _
  exact List.all_eq_true.mpr (List.forall_mem_cons.mpr ⟨hfind, List.all_eq_true.mp hfound⟩)

theorem keepsSort_openRowScript (b : Dashboard ρ) (r : RowDetail) :
    keepsSort (openRowScript b r) = true :=
  b.keepsSort_rowScript _ _ fun _ b => b.keepsSort_detailScript _

theorem keepsSort_performScript (b : Dashboard ρ) (m : Mutation) :
    keepsSort (performScript b m) = true := by
  have hreport (answer : Except DaemonError m.Answer) :
      keepsSort (reportScript b m answer) = true := by
    cases answer with
    | error error => rfl
    | ok answer =>
        rw [reportScript]
        cases b.keepResult m answer <;> rfl
  exact hreport _

theorem keepsSort_performRowScript (b : Dashboard ρ) (r : RowMutation) :
    keepsSort (performRowScript b r) = true :=
  b.keepsSort_rowScript _ _ fun _ b => b.keepsSort_performScript _

theorem keepsSort_listedScript
    (b : Dashboard ρ) (request : Request (List α)) (row : Nat) (what : String)
    {next : α → List Step} (hnext : ∀ item, keepsSort (next item) = true) :
    keepsSort (listedScript b request row what next) = true := by
  unfold listedScript askScript
  cases (b.daemon.call request).1 with
  | error error => rfl
  | ok items =>
      dsimp only
      cases items[row]? with
      | none => rfl
      | some item => exact hnext item

theorem keepsSort_commandScript
    (b : Dashboard ρ) {command : Command} (hcommand : command ≠ .sortNetworks) (view : View)
    (row : Nat) : keepsSort (commandScript b command view row) = true := by
  cases command with
  | sortNetworks => exact absurd rfl hcommand
  | showNetworks => exact b.keepsSort_detailScript .networks
  | showInfo =>
      rw [commandScript, hostScript]
      exact b.keepsSort_loadScript .host fun _ => rfl
  | openSelected =>
      cases view with
      | images | networks => exact b.keepsSort_openRowScript _
      | services | nodes => exact b.keepsSort_listedScript _ _ _ fun _ => rfl
      | _ => rfl
  | history => exact b.keepsSort_openRowScript _
  | kill | forceRemove => exact b.keepsSort_performRowScript _
  | remove =>
      cases view with
      | containers | images | networks => exact b.keepsSort_performRowScript _
      | _ => rfl
  | removeAllStopped | removeDangling | prune => exact b.keepsSort_performScript _
  -- all others show a screen, or do nothing
  | _ => rfl

theorem keepsSort_gatherScript (b : Dashboard ρ) : keepsSort (gatherScript b) = true := by
  unfold gatherScript
  cases b.navigation.view with
  | networks =>
      unfold askScript
      cases (b.daemon.call .networks).1 <;> rfl
  | serviceTasks => cases b.snapshots.service <;> rfl
  | nodeTasks => cases b.snapshots.node <;> rfl
  | _ => rfl

end Dashboard

/-- Whether an operation turns the order of the networks. -/
def Action.turnsSort : Action → Bool
  | sortNetworks => true
  | dispatch .sortNetworks _ => true
  | _ => false

namespace Dashboard

variable {ρ α : Type}

theorem keepsSort_actionScript
    (b : Dashboard ρ) {action : Action} (hturn : action.turnsSort = false) :
    keepsSort (actionScript b action) = true := by
  cases action with
  | sortNetworks => cases hturn
  | opening op =>
      cases op with
      | row r => exact b.keepsSort_openRowScript r
      | detail detail =>
          cases detail with
          | host =>
              rw [actionScript]
              exact b.keepsSort_loadScript .host fun _ => rfl
          | _ => exact b.keepsSort_detailScript _
  | change op =>
      cases op with
      | direct m => exact b.keepsSort_performScript m
      | row r => exact b.keepsSort_performRowScript r
  | find row => cases row <;> rfl
  | dispatch command cursor =>
      have hcommand : command ≠ .sortNetworks := by
        rintro rfl
        cases hturn
      exact keepsSort_commandScript _ hcommand _ _
  | gather status => exact b.keepsSort_gatherScript
  | _ => rfl

theorem keepsSort_settleScript (b : Dashboard ρ) : keepsSort (settleScript b) = true := by
  have hevents (events : List DaemonEvent) :
      keepsSort (events.flatMap eventScript) = true := by
    induction events with
    | nil => rfl
    | cons event events ih => exact ih
  unfold settleScript
  split
  · rfl
  · change keepsSort (b.newEvents.flatMap eventScript ++ _) = true
    rw [keepsSort_append, hevents]
    rfl

/-! ## Following scripts -/

section Following

variable [Refresh ρ] {b : Dashboard ρ}

theorem sorting_run {step : Step} (hstep : step.keepsSort = true) :
    (step.run b).sorting = b.sorting := by
  have hdemand : step.demand? ≠ some .sort := by
    cases step with
    | ask request =>
        simp only [Step.demand?]
        split <;> simp
    | tellSort mode => cases hstep
    | _ => nofun
  have hshown : (step.run b).navigation.sort = b.navigation.sort := by
    cases step with
    | rotateSort => cases hstep
    | visit view =>
        change (b.navigation.visit view).sort = _
        unfold Navigation.visit
        split <;> rfl
    | close =>
        change b.close.navigation.sort = _
        unfold close
        split <;> rfl
    | _ => rfl
  obtain ⟨hinForce, htold⟩ := sort_run (b := b) hdemand
  unfold sorting
  rw [hshown, hinForce, htold]

theorem sorting_follow {script : List Step} (hscript : keepsSort script = true) :
    (b.follow script).sorting = b.sorting := by
  induction script generalizing b with
  | nil => rfl
  | cons step script ih =>
      obtain ⟨hstep, hrest⟩ : step.keepsSort = true ∧ keepsSort script = true :=
        Bool.and_eq_true_iff.mp hscript
      calc
        (b.follow (step :: script)).sorting = (step.run b).sorting := ih hrest
        _ = b.sorting := sorting_run hstep

/-- An operation turns the order here and at the daemon, or keeps it in both places. -/
theorem sorting_act (b : Dashboard ρ) (action : Action) :
    (b.act action).sorting = if action.turnsSort then b.sorting.turn else b.sorting := by
  cases hturn : action.turnsSort with
  | false =>
      rw [← follow_actionScript]
      exact sorting_follow (b.keepsSort_actionScript hturn)
  | true =>
      cases action with
      | sortNetworks => rfl
      | dispatch command cursor =>
          cases command with
          | sortNetworks => rfl
          | _ => cases hturn
      | _ => cases hturn

theorem sorting_settle (b : Dashboard ρ) : b.settle.sorting = b.sorting := by
  rw [← follow_settleScript]
  exact sorting_follow b.keepsSort_settleScript

theorem sorting_close (b : Dashboard ρ) : b.close.sorting = b.sorting := by
  have hkeeps : Step.close.keepsSort = true := rfl
  exact sorting_run hkeeps

theorem sorting_drop (b : Dashboard ρ) : b.drop.sorting = b.sorting := by
  rw [← b.sorting_close, drop]
  split <;> rfl

end Following

/-! ## A whole life -/

def Move.turnsSort : Move → Bool
  | act action => action.turnsSort
  | _ => false

namespace Life

/-- How often the order is turned before the dashboard goes away. -/
def turns (moves : List Move) : Nat :=
  (moves.takeWhile fun move => move ≠ .drop).countP Move.turnsSort

theorem isDropped_use (l : Life ρ) (operation : Dashboard ρ → Dashboard ρ) :
    (l.use operation).isDropped = l.isDropped := by
  unfold use
  split <;> rfl

theorem sorting_use
    (l : Life ρ) {operation : Dashboard ρ → Dashboard ρ}
    (hoperation : (operation l.board).sorting = l.board.sorting) :
    (l.use operation).board.sorting = l.board.sorting := by
  unfold use
  split
  · rfl
  · exact hoperation

variable [Refresh ρ]

theorem isDropped_step (l : Life ρ) (move : Move) :
    (l.step move).isDropped = (l.isDropped || move = .drop) := by
  cases move with
  | act action =>
      change (l.use fun b => b.act action).isDropped = _
      simp [isDropped_use]
  | close =>
      change (l.use fun b => b.close).isDropped = _
      simp [isDropped_use]
  | join => rcases l.step_join_cases with ⟨-, hstep⟩ | ⟨-, hstep⟩ <;> simp [hstep, work]
  | _ => simp [step, atDaemon, work]

theorem sorting_step_of_keeps (l : Life ρ) {move : Move} (hkeeps : move.turnsSort = false) :
    (l.step move).board.sorting = l.board.sorting := by
  cases move with
  | act action =>
      apply l.sorting_use
      have hact := l.board.sorting_act action
      rw [show action.turnsSort = false from hkeeps] at hact
      exact hact
  | inject event =>
      obtain ⟨hsort, htold⟩ := l.board.daemon.sort_inject event
      exact congrArg₂ (Sorting.mk l.board.navigation.sort) hsort htold
  | settle => exact l.board.sorting_settle
  | close => exact l.sorting_use l.board.sorting_close
  | drop => exact l.sorting_use l.board.sorting_drop
  | join =>
      rcases l.step_join_cases with ⟨-, hstep⟩ | ⟨-, hstep⟩
      · rw [hstep]
      · rw [hstep]
        exact l.board.sorting_settle
  | _ => rfl

/-- Only an operation of a dashboard that is still there turns the order. -/
theorem sorting_step_of_turns (l : Life ρ) {move : Move} (hturns : move.turnsSort = true) :
    (l.step move).board.sorting =
      if l.isDropped then l.board.sorting else l.board.sorting.turn := by
  cases move with
  | act action =>
      have hact := l.board.sorting_act action
      rw [show action.turnsSort = true from hturns] at hact
      change (l.use fun b => b.act action).board.sorting = _
      unfold use
      cases l.isDropped with
      | true => rfl
      | false => exact hact
  | _ => cases hturns

theorem sorting_foldl_of_isDropped
    {l : Life ρ} (hgone : l.isDropped = true) (moves : List Move) :
    (moves.foldl step l).board.sorting = l.board.sorting := by
  induction moves generalizing l with
  | nil => rfl
  | cons move moves ih =>
      have hlater : (l.step move).isDropped = true := by
        rw [isDropped_step, hgone]
        rfl
      have hmove : (l.step move).board.sorting = l.board.sorting := by
        cases hturn : move.turnsSort with
        | false => exact l.sorting_step_of_keeps hturn
        | true => rw [l.sorting_step_of_turns hturn, if_pos hgone]
      exact (ih hlater).trans hmove

theorem sorting_foldl
    {l : Life ρ} (hthere : l.isDropped = false) (moves : List Move) :
    (moves.foldl step l).board.sorting = Sorting.turn^[turns moves] l.board.sorting := by
  induction moves generalizing l with
  | nil => rfl
  | cons move moves ih =>
      have hdropped : (l.step move).isDropped = decide (move = .drop) := by
        rw [isDropped_step, hthere, Bool.false_or]
      by_cases hdrop : move = .drop
      · subst hdrop
        exact (sorting_foldl_of_isDropped hdropped moves).trans (l.sorting_step_of_keeps rfl)
      · have hstill : (l.step move).isDropped = false := by
          simpa [hdrop] using hdropped
        rw [List.foldl_cons, ih hstill]
        cases hturn : move.turnsSort with
        | false =>
            have hturns : turns (move :: moves) = turns moves := by
              simp [turns, hdrop, hturn]
            rw [hturns, l.sorting_step_of_keeps hturn]
        | true =>
            have hturns : turns (move :: moves) = turns moves + 1 := by
              simp [turns, hdrop, hturn]
            have hmove : (l.step move).board.sorting = l.board.sorting.turn := by
              rw [l.sorting_step_of_turns hturn, hthere]
              rfl
            rw [hturns, hmove, Function.iterate_succ_apply]

/-- In every life, the orders that the daemon was told are those that the dashboard has
gone through. -/
theorem sorting_ofMoves
    {daemon : Daemon} {redraws : ρ} {config : Config} {b : Dashboard ρ}
    (hstart : start daemon redraws config = .ok b) (moves : List Move) :
    (ofMoves b moves).board.sorting =
      ⟨SortMode.next^[turns moves] config.initialSort,
        SortMode.next^[turns moves] config.initialSort,
        daemon.directives ++
          List.iterate SortMode.next config.initialSort (turns moves + 1)⟩ := by
  have hthere : ({ board := b } : Life ρ).isDropped = false := rfl
  rw [ofMoves, sorting_foldl hthere, sorting_start hstart, Sorting.turn_iterate_start]

end Life

end Dashboard

end ContainerBoard
