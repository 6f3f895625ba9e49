import ContainerBoard.Input.Cursor
import Mathlib.Data.List.Induction
import Mathlib.Logic.Function.Iterate

/-!
# Runs of the cursor

A cursor is told how many rows its list has, moved up and down, and put back to the first
row, in any order.  The list may shrink, become empty and grow again in between.  Each of
these steps keeps the selected row inside the list, or on the first row of an empty one;
where repeated moves end, and that no row number ever grows too large, follows from that.
-/

namespace ContainerBoard.Cursor

/-- What is done with a cursor. -/
inductive Move where
  | up
  | down
  | reset
  | setRows (rows : Nat)
  deriving DecidableEq

/-- The row count that the cursor is told. -/
def Move.rows? : Move → Option Nat
  | setRows rows => some rows
  | _ => none

def step (c : Cursor) : Move → Cursor
  | .up => c.up
  | .down => c.down
  | .reset => c.reset
  | .setRows rows => c.setRows rows

def ofMoves (moves : List Move) : Cursor :=
  moves.foldl step {}

/-- The row count that the cursor was last told; a new cursor has no rows. -/
def lastRows (moves : List Move) : Nat :=
  ((moves.filterMap Move.rows?).getLast?).getD 0

/-- The selected row is the first one, or a row of the list. -/
def IsClamped (c : Cursor) : Prop :=
  c.selected = 0 ∨ c.selected < c.rows

theorem ofMoves_append_singleton (moves : List Move) (move : Move) :
    ofMoves (moves ++ [move]) = (ofMoves moves).step move := by
  simp [ofMoves]

theorem lastRows_append_singleton (moves : List Move) (move : Move) :
    lastRows (moves ++ [move]) = move.rows?.getD (lastRows moves) := by
  rw [lastRows, List.filterMap_append]
  cases hrows : move.rows? <;> simp [hrows, lastRows]

/-! ## What one step does -/

theorem selected_setRows_of_lt {c : Cursor} {rows : Nat} (h : c.selected < rows) :
    (c.setRows rows).selected = c.selected :=
  if_pos h

theorem selected_setRows_of_le {c : Cursor} {rows : Nat} (h : rows ≤ c.selected) :
    (c.setRows rows).selected = rows - 1 :=
  if_neg (Nat.not_lt.mpr h)

/-- A cursor on a list that is not empty selects one of its rows. -/
theorem selected_setRows_lt (c : Cursor) {rows : Nat} (hrows : 0 < rows) :
    (c.setRows rows).selected < rows := by
  rcases Nat.lt_or_ge c.selected rows with h | h
  · rwa [selected_setRows_of_lt h]
  · rw [selected_setRows_of_le h]
    exact Nat.sub_lt hrows Nat.one_pos

theorem isClamped_setRows (c : Cursor) (rows : Nat) : (c.setRows rows).IsClamped := by
  rcases Nat.eq_zero_or_pos rows with rfl | hrows
  · exact .inl (selected_setRows_of_le (Nat.zero_le _))
  · exact .inr (c.selected_setRows_lt hrows)

theorem rows_down (c : Cursor) : c.down.rows = c.rows := by
  rw [down]
  split <;> rfl

theorem selected_down {c : Cursor} (h : c.IsClamped) :
    c.down.selected = min (c.selected + 1) (c.rows - 1) := by
  rw [down]
  by_cases hroom : c.selected + 1 < c.rows
  · rw [if_pos hroom]
    exact (Nat.min_eq_left (Nat.le_sub_one_of_lt hroom)).symm
  · rw [if_neg hroom]
    rcases h with hzero | hlt <;> omega

theorem isClamped_down {c : Cursor} (h : c.IsClamped) : c.down.IsClamped := by
  have hdown := selected_down h
  rw [IsClamped, rows_down]
  omega

theorem isClamped_up {c : Cursor} (h : c.IsClamped) : c.up.IsClamped := by
  rcases h with hzero | hlt
  · exact .inl (congrArg (· - 1) hzero)
  · exact .inr (Nat.lt_of_le_of_lt (Nat.sub_le _ _) hlt)

/-- Whatever is done, the selected row stays inside the list. -/
theorem isClamped_step {c : Cursor} (h : c.IsClamped) (move : Move) :
    (c.step move).IsClamped := by
  cases move with
  | up => exact isClamped_up h
  | down => exact isClamped_down h
  | reset => exact .inl rfl
  | setRows rows => exact c.isClamped_setRows rows

theorem rows_step (c : Cursor) (move : Move) :
    (c.step move).rows = move.rows?.getD c.rows := by
  cases move with
  | down => exact c.rows_down
  | _ => rfl

/-! ## What a run does -/

theorem isClamped_ofMoves (moves : List Move) : (ofMoves moves).IsClamped := by
  induction moves using List.reverseRecOn with
  | nil => exact .inl rfl
  | append_singleton moves move ih =>
      rw [ofMoves_append_singleton]
      exact isClamped_step ih move

theorem rows_ofMoves (moves : List Move) : (ofMoves moves).rows = lastRows moves := by
  induction moves using List.reverseRecOn with
  | nil => rfl
  | append_singleton moves move ih =>
      rw [ofMoves_append_singleton, lastRows_append_singleton, rows_step, ih]

theorem lastRows_le {largest : Nat} {moves : List Move}
    (h : ∀ rows, .setRows rows ∈ moves → rows ≤ largest) : lastRows moves ≤ largest := by
  induction moves using List.reverseRecOn with
  | nil => exact Nat.zero_le _
  | append_singleton moves move ih =>
      have hearlier : lastRows moves ≤ largest :=
        ih fun rows hrows => h rows (List.mem_append_left _ hrows)
      rw [lastRows_append_singleton]
      cases move with
      | setRows rows => exact h rows (List.mem_append_right _ List.mem_cons_self)
      | _ => exact hearlier

theorem ofMoves_append_replicate (moves : List Move) (move : Move) (k : Nat) :
    ofMoves (moves ++ List.replicate k move) = (fun c => step c move)^[k] (ofMoves moves) := by
  induction k with
  | zero => rw [List.replicate_zero, List.append_nil, Function.iterate_zero_apply]
  | succ k ih =>
      rw [List.replicate_succ', ← List.append_assoc, ofMoves_append_singleton, ih,
        Function.iterate_succ_apply']

theorem rows_down_iterate (c : Cursor) (k : Nat) : (down^[k] c).rows = c.rows := by
  induction k with
  | zero => rfl
  | succ k ih => rw [Function.iterate_succ_apply', rows_down, ih]

theorem isClamped_down_iterate {c : Cursor} (h : c.IsClamped) (k : Nat) :
    (down^[k] c).IsClamped := by
  induction k with
  | zero => exact h
  | succ k ih =>
      rw [Function.iterate_succ_apply']
      exact isClamped_down ih

/-- Moving down ends on the last row. -/
theorem selected_down_iterate {c : Cursor} (h : c.IsClamped) (k : Nat) :
    (down^[k] c).selected = min (c.selected + k) (c.rows - 1) := by
  induction k with
  | zero =>
      have hlast : c.selected ≤ c.rows - 1 := by
        rcases h with h | h <;> omega
      exact (Nat.min_eq_left hlast).symm
  | succ k ih =>
      rw [Function.iterate_succ_apply', selected_down (isClamped_down_iterate h k), ih,
        rows_down_iterate]
      omega

/-- Moving up ends on the first row. -/
theorem selected_up_iterate (c : Cursor) (k : Nat) :
    (up^[k] c).selected = c.selected - k := by
  induction k with
  | zero => rfl
  | succ k ih =>
      rw [Function.iterate_succ_apply']
      change (up^[k] c).selected - 1 = _
      rw [ih, Nat.sub_sub]

/-- The selected row in any run of a cursor.

* After every step it is the first row, or below the row count that was last told, so that
  the number of the next row is at most `largest` if all row counts are.
* A row count leaves it where it is, or moves it to the last row if it is beyond that, and
  to the first one if there are no rows.
* Moving down from there ends on the last row at the latest, and moving up on the first. -/
theorem cursor_stays_in_list
    {largest : Nat} (hlargest : 0 < largest) {moves : List Move}
    (hfits : ∀ rows, .setRows rows ∈ moves → rows ≤ largest) :
    (∀ earlier, earlier <+: moves →
        let c := ofMoves earlier
        (c.selected = 0 ∨ c.selected < lastRows earlier) ∧ c.selected + 1 ≤ largest) ∧
      ∀ rows,
        let before := ofMoves moves
        let c := ofMoves (moves ++ [.setRows rows])
        (before.selected < rows → c.selected = before.selected) ∧
          (rows ≤ before.selected → c.selected = if rows = 0 then 0 else rows - 1) ∧
          (0 < rows → ∀ k,
            (ofMoves (moves ++ [.setRows rows] ++ List.replicate k .down)).selected =
              min (c.selected + k) (rows - 1)) ∧
          ∀ k,
            ((ofMoves (moves ++ [.setRows rows] ++ List.replicate k .up)).selected : Int) =
              max ((c.selected : Int) - k) 0 := by
  constructor
  · intro earlier hearlier c
    have hclamped : c.selected = 0 ∨ c.selected < lastRows earlier := by
      rw [← rows_ofMoves]
      exact isClamped_ofMoves earlier
    have hlast : lastRows earlier ≤ largest :=
      lastRows_le fun rows hrows => hfits rows (hearlier.subset hrows)
    refine ⟨hclamped, ?_⟩
    omega
  · intro rows before c
    have hc : c = before.setRows rows := ofMoves_append_singleton moves (.setRows rows)
    refine ⟨?_, ?_, ?_, ?_⟩
    · intro hinside
      rw [hc, selected_setRows_of_lt hinside]
    · intro hbeyond
      rw [hc, selected_setRows_of_le hbeyond]
      split
      · omega
      · rfl
    · intro hrows k
      rw [ofMoves_append_replicate]
      change (down^[k] c).selected = _
      rw [hc]
      exact selected_down_iterate (before.isClamped_setRows rows) k
    · intro k
      rw [ofMoves_append_replicate]
      change ((up^[k] c).selected : Int) = _
      rw [selected_up_iterate]
      omega

/-- In the longest list there can be the cursor goes down three times; the list shrinks to
two rows, and the cursor is moved on. -/
theorem cursor_in_shrinking_list :
    let moves : List Move := [.setRows (UInt64.size - 1), .down, .down, .down]
    let shrunk := moves ++ [.setRows 2]
    (0 < UInt64.size - 1 ∧ ∀ rows, .setRows rows ∈ moves → rows ≤ UInt64.size - 1) ∧
      (ofMoves moves).selected = 3 ∧ (ofMoves moves).selected + 1 ≤ UInt64.size - 1 ∧
      (ofMoves shrunk).selected = 1 ∧
      (ofMoves (shrunk ++ List.replicate 7 .down)).selected = 1 ∧
      ((ofMoves (shrunk ++ List.replicate 7 .up)).selected : Int) = 0 := by
  intro moves shrunk
  have hlargest : 0 < UInt64.size - 1 := by decide
  have hfits : ∀ rows, Move.setRows rows ∈ moves → rows ≤ UInt64.size - 1 := by
    simp [moves]
  have hthree : (ofMoves moves).selected = 3 := by decide
  obtain ⟨hevery, hrows⟩ := cursor_stays_in_list hlargest hfits
  obtain ⟨-, hbeyond, hdown, hup⟩ := hrows 2
  have hlast : (ofMoves shrunk).selected = 1 := hbeyond (hthree ▸ by decide)
  refine ⟨⟨hlargest, hfits⟩, hthree, (hevery moves (List.prefix_refl moves)).2, hlast, ?_, ?_⟩
  · rw [hdown (by decide) 7, hlast]
    rfl
  · rw [hup 7, hlast]
    rfl

end ContainerBoard.Cursor
