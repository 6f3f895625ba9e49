import ContainerBoard.Proofs.Dashboard.Lifespan
import Mathlib.Tactic.Tauto

/-!
# How far the end of a dashboard has come

A dashboard is closed, waited for, dropped, and its subscription released.  How far that
has come in a life depends on the moves alone, whatever the dashboard was used for.
-/

namespace ContainerBoard.Dashboard

/-- How far the end of a dashboard has come. -/
structure Ending where
  isClosed : Bool := false
  isJoined : Bool := false
  isDropped : Bool := false
  /-- Whether the daemon noticed that the dashboard is closed. -/
  isReleased : Bool := false
  deriving DecidableEq

namespace Ending

/-- What a move contributes to the end. -/
def after (e : Ending) : Move → Ending
  | .settle => { e with isReleased := e.isClosed }
  | .close => { e with isClosed := e.isClosed || !e.isDropped }
  | .join =>
    if e.isDropped || e.isJoined then e
    else { e with isJoined := true, isReleased := e.isClosed }
  | .drop => { e with isDropped := true, isClosed := e.isClosed || !e.isDropped }
  | _ => e

variable {e : Ending}

theorem isClosed_after (hgone : e.isDropped = true → e.isClosed = true) (move : Move) :
    (e.after move).isClosed = (e.isClosed || move = .close || move = .drop) := by
  have hthere : (e.isClosed || !e.isDropped) = true := by
    cases hdropped : e.isDropped with
    | true => simp [hgone hdropped]
    | false => simp
  cases move with
  | close => simpa [after] using hthere
  | drop => simpa [after] using hthere
  | join =>
      cases hdropped : e.isDropped <;> cases hjoined : e.isJoined <;>
        simp [after, hdropped, hjoined]
  | _ => simp [after]

theorem isDropped_after (e : Ending) (move : Move) :
    (e.after move).isDropped = (e.isDropped || move = .drop) := by
  cases move with
  | join =>
      cases hdropped : e.isDropped <;> cases hjoined : e.isJoined <;>
        simp [after, hdropped, hjoined]
  | _ => simp [after]

/-- A dashboard is closed by closing it or by dropping it. -/
theorem isClosed_foldl
    (hgone : e.isDropped = true → e.isClosed = true) (moves : List Move) :
    (moves.foldl after e).isClosed = true ↔
      e.isClosed = true ∨ .close ∈ moves ∨ .drop ∈ moves := by
  induction moves generalizing e with
  | nil => simp
  | cons move moves ih =>
      have hclosed := isClosed_after hgone move
      have hgone' : (e.after move).isDropped = true → (e.after move).isClosed = true := by
        intro hdropped
        rw [isDropped_after, Bool.or_eq_true] at hdropped
        rw [hclosed]
        rcases hdropped with hdropped | hdrop
        · simp [hgone hdropped]
        · simp [hdrop]
      rw [List.foldl_cons, ih hgone', hclosed]
      simp only [Bool.or_eq_true, decide_eq_true_eq, List.mem_cons, eq_comm (b := move)]
      tauto

end Ending

namespace Life

variable {ρ : Type}

/-- How far the end of a life has come. -/
def ending (l : Life ρ) : Ending where
  isClosed := l.board.isClosed
  isJoined := l.board.isJoined
  isDropped := l.isDropped
  isReleased := l.isReleased

theorem ending_use
    {l : Life ρ} {operation : Dashboard ρ → Dashboard ρ}
    (hclosed : (operation l.board).isClosed = l.board.isClosed)
    (hjoined : (operation l.board).isJoined = l.board.isJoined) :
    (l.use operation).ending = l.ending := by
  unfold use
  split
  · rfl
  · simp only [ending, hclosed, hjoined]

theorem ending_start
    {daemon : Daemon} {redraws : ρ} {config : Config} {b : Dashboard ρ}
    (hstart : start daemon redraws config = .ok b) :
    ({ board := b } : Life ρ).ending = {} := by
  have hlife := lifecycle_start hstart
  have hclosed : b.isClosed = false := congrArg Lifecycle.isClosed hlife
  have hjoined : b.isJoined = false := congrArg Lifecycle.isJoined hlife
  simp only [ending, hclosed, hjoined]

variable [Refresh ρ]

theorem ending_join (l : Life ρ) : (l.step .join).ending = l.ending.after .join := by
  obtain ⟨hclosed, -, -⟩ := l.board.settle_frame
  rcases l.step_join_cases with ⟨hlate, hstep⟩ | ⟨hfirst, hstep⟩
  · have hafter : l.ending.after .join = l.ending := if_pos hlate
    rw [hstep, hafter]
  · have hafter : l.ending.after .join =
        { l.ending with isJoined := true, isReleased := l.ending.isClosed } :=
      if_neg (Bool.eq_false_iff.mp hfirst)
    rw [hstep, hafter]
    simp only [work, ending, hclosed]

/-- Every move takes the end as far as it says. -/
theorem ending_step (l : Life ρ) (move : Move) : (l.step move).ending = l.ending.after move := by
  cases move with
  | act action =>
      have hlife := l.board.lifecycle_act action
      exact ending_use (congrArg Lifecycle.isClosed hlife) (congrArg Lifecycle.isJoined hlife)
  | settle =>
      obtain ⟨hclosed, hjoined, -⟩ := l.board.settle_frame
      simp only [step, work, ending, Ending.after, hclosed, hjoined]
  | close =>
      have hclosed := l.board.isClosed_close
      have hjoined := isJoined_close l.board
      cases hdropped : l.isDropped <;>
        simp [step, use, ending, Ending.after, hdropped, hclosed, hjoined]
  | join => exact ending_join l
  | drop =>
      obtain ⟨hclosed, hjoined⟩ := drop_frame l.board
      cases hdropped : l.isDropped <;>
        simp [step, use, ending, Ending.after, hdropped, hclosed, hjoined]
  | _ => rfl

theorem ending_foldl (l : Life ρ) (moves : List Move) :
    (moves.foldl step l).ending = moves.foldl Ending.after l.ending := by
  induction moves generalizing l with
  | nil => rfl
  | cons move moves ih => rw [List.foldl_cons, List.foldl_cons, ih, ending_step]

section NewDashboard

variable {daemon : Daemon} {redraws : ρ} {config : Config} {b : Dashboard ρ}

theorem ending_ofMoves (hstart : start daemon redraws config = .ok b) (moves : List Move) :
    (ofMoves b moves).ending = moves.foldl Ending.after {} := by
  rw [← ending_start hstart]
  exact ending_foldl _ moves

theorem isClosed_ofMoves (hstart : start daemon redraws config = .ok b) (moves : List Move) :
    (ofMoves b moves).board.isClosed = true ↔ .close ∈ moves ∨ .drop ∈ moves := by
  change (ofMoves b moves).ending.isClosed = true ↔ _
  rw [ending_ofMoves hstart, Ending.isClosed_foldl (by simp)]
  simp

end NewDashboard

end Life

end ContainerBoard.Dashboard
