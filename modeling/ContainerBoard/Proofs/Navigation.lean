import ContainerBoard.Navigation
import Mathlib.Data.List.Induction
import Mathlib.Dynamics.PeriodicPts.Defs

/-!
# Runs of the navigation

A run is any sequence of visits to screens, ways back and changes of the sort
order.  The main result reads all three parts of the state off the sequence: the
main screen off the visits to main screens, the active screen off the last turn
to a screen, and the order off the changes of the order alone.
-/

namespace ContainerBoard

namespace SortMode

theorem next_iterate_unsorted (n : Nat) : next^[n] unsorted = unsorted :=
  Function.iterate_fixed rfl n

/-- The orders come again after three steps. -/
theorem next_iterate_add_three (n : Nat) (sort : SortMode) :
    next^[n + 3] sort = next^[n] sort := by
  rw [Function.iterate_add_apply]
  cases sort <;> rfl

end SortMode

namespace Navigation

/-- What is done with the navigation. -/
inductive Move where
  | visit (view : View)
  | back
  | setSort (sort : SortMode)
  | rotateSort
  deriving DecidableEq

namespace Move

/-- Whether the move turns to a screen, and leaves the sort order alone. -/
def isTurn : Move → Bool
  | visit _ => true
  | back => true
  | _ => false

/-- The screen that is visited. -/
def visited? : Move → Option View
  | visit view => some view
  | _ => none

/-- The sort order that is set. -/
def sort? : Move → Option SortMode
  | setSort sort => some sort
  | _ => none

end Move

def step (nav : Navigation) : Move → Navigation
  | .visit view => nav.visit view
  | .back => nav.restore.2
  | .setSort sort => nav.setSort sort
  | .rotateSort => nav.rotateSort

def ofMoves (view : View) (sort : SortMode) (moves : List Move) : Navigation :=
  moves.foldl step (start view sort)

/-- The last main screen that was visited. -/
def lastMain? (moves : List Move) : Option View :=
  ((moves.filterMap Move.visited?).filter View.isMain).getLast?

/-- The last turn to a screen. -/
def lastTurn? (moves : List Move) : Option Move :=
  (moves.filter Move.isTurn).getLast?

/-- The last sort order that was set. -/
def lastSort? (moves : List Move) : Option SortMode :=
  (moves.filterMap Move.sort?).getLast?

/-- How often the sort order was rotated since it was last set. -/
def rotations (moves : List Move) : Nat :=
  (moves.reverse.takeWhile fun move => move.sort?.isNone).count .rotateSort

theorem ofMoves_append_singleton
    (view : View) (sort : SortMode) (moves : List Move) (move : Move) :
    ofMoves view sort (moves ++ [move]) = (ofMoves view sort moves).step move := by
  simp [ofMoves]

theorem lastMain?_append_singleton (moves : List Move) (move : Move) :
    lastMain? (moves ++ [move]) =
      match move with
      | .visit visited => if visited.isMain then some visited else lastMain? moves
      | _ => lastMain? moves := by
  unfold lastMain?
  rw [List.filterMap_append, List.filter_append]
  cases move with
  | visit visited =>
      rw [show [Move.visit visited].filterMap Move.visited? = [visited] from rfl]
      cases hmain : visited.isMain <;> simp [hmain]
  | _ => exact congrArg List.getLast? (List.append_nil _)

theorem lastTurn?_append_singleton (moves : List Move) (move : Move) :
    lastTurn? (moves ++ [move]) = if move.isTurn then some move else lastTurn? moves := by
  unfold lastTurn?
  rw [List.filter_append]
  cases hturn : move.isTurn <;> simp [hturn]

theorem lastSort?_append_singleton (moves : List Move) (move : Move) :
    lastSort? (moves ++ [move]) = move.sort?.or (lastSort? moves) := by
  unfold lastSort?
  rw [List.filterMap_append]
  cases hsort : move.sort? <;> simp [hsort]

theorem rotations_append_singleton (moves : List Move) (move : Move) :
    rotations (moves ++ [move]) =
      match move with
      | .setSort _ => 0
      | .rotateSort => rotations moves + 1
      | _ => rotations moves := by
  unfold rotations
  rw [List.reverse_append]
  cases move <;> simp [Move.sort?]

/-! ## What one move does -/

theorem main_start (view : View) (sort : SortMode) :
    (start view sort).main = if view.isMain then view else .containers := by
  unfold start
  split <;> rfl

theorem view_start (view : View) (sort : SortMode) :
    (start view sort).view = (start view sort).main := by
  unfold start
  split <;> rfl

theorem sort_start (view : View) (sort : SortMode) : (start view sort).sort = sort := by
  unfold start
  split <;> rfl

theorem main_step (nav : Navigation) (move : Move) :
    (nav.step move).main =
      match move with
      | .visit view => if view.isMain then view else nav.main
      | _ => nav.main := by
  cases move with
  | visit view =>
      change (nav.visit view).main = if view.isMain then view else nav.main
      unfold visit
      split <;> rfl
  | _ => rfl

theorem view_step (nav : Navigation) (move : Move) :
    (nav.step move).view =
      match move with
      | .visit view => view
      | .back => nav.main
      | _ => nav.view := by
  cases move with
  | visit view =>
      change (nav.visit view).view = view
      unfold visit
      split <;> rfl
  | _ => rfl

theorem sort_step (nav : Navigation) (move : Move) :
    (nav.step move).sort =
      match move with
      | .setSort sort => sort
      | .rotateSort => nav.sort.next
      | _ => nav.sort := by
  cases move with
  | visit view =>
      change (nav.visit view).sort = nav.sort
      unfold visit
      split <;> rfl
  | _ => rfl

/-! ## What a run does -/

variable (view : View) (sort : SortMode) (moves : List Move)

theorem main_ofMoves :
    (ofMoves view sort moves).main =
      (lastMain? moves).getD (if view.isMain then view else .containers) := by
  induction moves using List.reverseRecOn with
  | nil => exact main_start view sort
  | append_singleton moves move ih =>
      rw [ofMoves_append_singleton, main_step, lastMain?_append_singleton]
      cases move with
      | visit visited => cases hmain : visited.isMain <;> simp [hmain, ih]
      | _ => exact ih

theorem view_ofMoves :
    (ofMoves view sort moves).view =
      match lastTurn? moves with
      | some (.visit visited) => visited
      | _ => (ofMoves view sort moves).main := by
  induction moves using List.reverseRecOn with
  | nil => exact view_start view sort
  | append_singleton moves move ih =>
      rw [ofMoves_append_singleton, view_step, main_step, lastTurn?_append_singleton]
      cases move with
      | visit visited => rfl
      | back => rfl
      | setSort set => exact ih
      | rotateSort => exact ih

theorem sort_ofMoves :
    (ofMoves view sort moves).sort =
      SortMode.next^[rotations moves] ((lastSort? moves).getD sort) := by
  induction moves using List.reverseRecOn with
  | nil => exact sort_start view sort
  | append_singleton moves move ih =>
      rw [ofMoves_append_singleton, sort_step, rotations_append_singleton,
        lastSort?_append_singleton]
      cases move with
      | visit visited => exact ih
      | back => exact ih
      | setSort set => rfl
      | rotateSort =>
          rw [Function.iterate_succ_apply', ih]
          rfl

/-- Where the user is does not depend on the sort orders. -/
theorem view_main_of_filter_isTurn
    {moves moves' : List Move} (h : moves'.filter Move.isTurn = moves.filter Move.isTurn)
    (sort sort' : SortMode) :
    (ofMoves view sort' moves').view = (ofMoves view sort moves).view ∧
      (ofMoves view sort' moves').main = (ofMoves view sort moves).main := by
  have hvisited (moves : List Move) :
      moves.filterMap Move.visited? =
        (moves.filter Move.isTurn).filterMap Move.visited? := by
    rw [List.filterMap_filter]
    congr 1
    funext move
    cases move <;> rfl
  have hmain : (ofMoves view sort' moves').main = (ofMoves view sort moves).main := by
    rw [main_ofMoves, main_ofMoves, lastMain?, lastMain?, hvisited moves', h, ← hvisited]
  refine ⟨?_, hmain⟩
  rw [view_ofMoves, view_ofMoves, lastTurn?, lastTurn?, h, hmain]

/-- The sort order does not depend on where the user is. -/
theorem sort_of_filter_not_isTurn
    {moves moves' : List Move}
    (h : (moves'.filter fun move => !move.isTurn) = moves.filter fun move => !move.isTurn)
    (view view' : View) :
    (ofMoves view' sort moves').sort = (ofMoves view sort moves).sort := by
  -- turns to screens can be left out of a run
  have hfilter (view : View) (moves : List Move) :
      (ofMoves view sort moves).sort =
        (ofMoves default sort (moves.filter fun move => !move.isTurn)).sort := by
    induction moves using List.reverseRecOn with
    | nil => rw [List.filter_nil, ofMoves, ofMoves, List.foldl_nil, List.foldl_nil,
        sort_start, sort_start]
    | append_singleton moves move ih =>
        rw [ofMoves_append_singleton, List.filter_append, sort_step]
        cases move <;> simp [Move.isTurn, ofMoves_append_singleton, sort_step, ih]
  rw [hfilter view' moves', hfilter view moves, h]

/-- What a sequence of moves leaves.  The screen to go back to is the last main
screen that was visited, or else the first one; the active screen is the one of
the last visit, unless the user went back after it.  Going back says to which
screen, and changes nothing else.  The sort order is the last one that was set,
advanced by the rotations since, which come back to it after three steps.
Neither the screens nor the sort order depend on moves of the other kind. -/
theorem ofMoves_eq (view : View) (sort : SortMode) (moves : List Move) :
    let nav := ofMoves view sort moves
    nav.main.isMain = true ∧
    nav.main = (lastMain? moves).getD (if view.isMain then view else .containers) ∧
    (nav.view =
      match lastTurn? moves with
      | some (.visit visited) => visited
      | _ => nav.main) ∧
    nav.restore = (nav.main, { nav with view := nav.main }) ∧
    nav.sort = SortMode.next^[rotations moves] ((lastSort? moves).getD sort) ∧
    (∀ n order, SortMode.next^[n + 3] order = SortMode.next^[n] order) ∧
    (∀ n, SortMode.next^[n] .unsorted = .unsorted) ∧
    (∀ moves' sort', moves'.filter Move.isTurn = moves.filter Move.isTurn →
      (ofMoves view sort' moves').view = nav.view ∧
        (ofMoves view sort' moves').main = nav.main) ∧
    (∀ moves' view',
      (moves'.filter fun move => !move.isTurn) = (moves.filter fun move => !move.isTurn) →
        (ofMoves view' sort moves').sort = nav.sort) := by
  intro nav
  refine ⟨nav.main_isMain, main_ofMoves view sort moves, view_ofMoves view sort moves, rfl,
    sort_ofMoves view sort moves, SortMode.next_iterate_add_three,
    SortMode.next_iterate_unsorted, ?_, ?_⟩
  · intro moves' sort' hturns
    exact view_main_of_filter_isTurn view hturns sort sort'
  · intro moves' view' hsorts
    exact sort_of_filter_not_isTurn sort hsorts view view'

end Navigation

end ContainerBoard
