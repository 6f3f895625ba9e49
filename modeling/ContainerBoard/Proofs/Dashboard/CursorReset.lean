import ContainerBoard.Proofs.Dashboard.Action

/-!
# The selected row after a command

The cursor goes back to the first row when a command to go to another screen changes the
screen.  The two commands that open something about the selected row change the screen as
well, but leave the cursor where it is.  On a screen that stays, nothing but the two
commands that move the cursor does so.
-/

namespace ContainerBoard

namespace Command

/-- Whether the command opens something about the selected row. -/
def opensRow : Command → Bool
  | openSelected => true
  | history => true
  | _ => false

/-- Whether the command moves the cursor within the list. -/
def movesCursor : Command → Bool
  | moveUp => true
  | moveDown => true
  | _ => false

theorem movesCursor_of_changesScreen (command : Command)
    (hchanges : command.changesScreen = true) : command.movesCursor = false := by
  cases command with
  | moveUp | moveDown => cases hchanges
  | _ => rfl

end Command

namespace Dashboard

variable {ρ : Type}

/-! ## Commands that stay on the screen -/

theorem navigation_onRow
    (b : Dashboard ρ) (row : ObjectRow) (action : String)
    {next : String → Dashboard ρ → Dashboard ρ}
    (hnext : ∀ id b, (next id b).navigation = b.navigation) :
    (b.onRow row action next).navigation = b.navigation := by
  unfold onRow
  rcases row.objectId b.daemon with ⟨error | id, d⟩
  · rfl
  · exact hnext id { b with daemon := d }

variable [Refresh ρ]

theorem navigation_perform (b : Dashboard ρ) (m : Mutation) :
    (b.perform m).2.navigation = b.navigation := by
  unfold perform fetch ask
  rcases (b.say m.announcement).daemon.call m.request with ⟨error | answer, d⟩
  · rfl
  · simp only [Except.mapError]
    split
    · rfl
    · rfl

theorem navigation_performRow (b : Dashboard ρ) (r : RowMutation) :
    (b.performRow r).navigation = b.navigation := by
  rw [performRow_eq]
  exact b.navigation_onRow _ _ fun id b => b.navigation_perform (r.mutation id)

theorem navigation_removeSelected (b : Dashboard ρ) (view : View) (row : Nat) :
    (b.removeSelected view row).navigation = b.navigation := by
  cases view with
  | containers => exact b.navigation_performRow _
  | images => exact b.navigation_performRow _
  | networks => exact b.navigation_performRow _
  | _ => rfl

/-- A command stays on the screen unless it is one to go to another, or opens something
about the selected row. -/
theorem view_execute
    {command : Command} (hstays : (command.changesScreen || command.opensRow) = false)
    (b : Dashboard ρ) (view : View) (row : Nat) :
    (b.execute command view row).2.navigation.view = b.navigation.view := by
  cases command with
  | quit | moveUp | moveDown | sortNetworks => rfl
  | kill => exact congrArg Navigation.view (b.navigation_performRow _)
  | remove => exact congrArg Navigation.view (b.navigation_removeSelected view row)
  | forceRemove => exact congrArg Navigation.view (b.navigation_performRow _)
  | removeAllStopped => exact congrArg Navigation.view (b.navigation_perform _)
  | removeDangling => exact congrArg Navigation.view (b.navigation_perform _)
  | prune => exact congrArg Navigation.view (b.navigation_perform _)
  | _ => cases hstays

theorem view_dispatch
    {command : Command} (hstays : (command.changesScreen || command.opensRow) = false)
    (b : Dashboard ρ) (cursor : Cursor) :
    (b.dispatch command cursor).dashboard.navigation.view = b.navigation.view := by
  obtain ⟨lines, hdispatch⟩ := b.dashboard_dispatch command cursor
  rw [hdispatch]
  exact view_execute hstays (b.log lines) _ _

/-! ## The cursor -/

theorem moveCursor_eq
    {command : Command} (hmoves : command.movesCursor = false) (before after : View)
    (cursor : Cursor) :
    moveCursor command before after cursor =
      if command.changesScreen && after != before then cursor.reset else cursor := by
  cases command with
  | moveUp | moveDown => cases hmoves
  | _ => rfl

/-- However a command ends, the cursor is moved as its screens before and after it
require. -/
theorem cursor_dispatch (b : Dashboard ρ) (command : Command) (cursor : Cursor) :
    (b.dispatch command cursor).cursor =
      moveCursor command b.navigation.view
        (b.dispatch command cursor).dashboard.navigation.view cursor := by
  unfold dispatch
  dsimp only
  split
  · rename_i overflow b' hdone
    -- only an action on all objects of a kind breaks off
    cases command with
    | removeAllStopped | removeDangling | prune => rfl
    | _ => cases hdone
  · split
    · rename_i hquit
      subst hquit
      rfl
    · rfl

/-- The selected row after a command.

* If the screen changes, the cursor is on the first row, unless the command opens something
  about the selected row.
* A command that opens something about the selected row leaves the cursor alone.
* If the screen stays, the cursor is where it was, unless the command moves it. -/
theorem selection_after_command (b : Dashboard ρ) (command : Command) (cursor : Cursor) :
    let done := b.dispatch command cursor
    let view := done.dashboard.navigation.view
    (view ≠ b.navigation.view → command.opensRow = false →
        done.cursor = { cursor with selected := 0 }) ∧
      (command.opensRow = true → done.cursor = cursor) ∧
      (view = b.navigation.view → command.movesCursor = false → done.cursor = cursor) := by
  intro done view
  have hcursor : done.cursor = moveCursor command b.navigation.view view cursor :=
    b.cursor_dispatch command cursor
  refine ⟨?_, ?_, ?_⟩
  · intro hturned hopens
    have hchanges : command.changesScreen = true := by
      cases hstays : command.changesScreen with
      | true => rfl
      | false => exact absurd (b.view_dispatch (by simp [hstays, hopens]) cursor) hturned
    have hmoves : command.movesCursor = false := command.movesCursor_of_changesScreen hchanges
    rw [hcursor, moveCursor_eq hmoves, hchanges, if_pos (by simp [hturned])]
    rfl
  · intro hopens
    rw [hcursor]
    cases command with
    | openSelected | history => rfl
    | _ => cases hopens
  · intro hstays hmoves
    rw [hcursor, moveCursor_eq hmoves, if_neg (by simp [hstays])]

/-- The second image is opened, and the second row is still the selected one. -/
theorem second_row_selected_on_detail_screen :
    ∃ b : Dashboard RedrawCount,
      start Sample.daemon default {} = .ok b ∧
        let b := (b.dispatch .showImages {}).dashboard
        let done := b.dispatch .openSelected { selected := 1, rows := 5 }
        done.dashboard.navigation.view ≠ b.navigation.view ∧ done.cursor.selected = 1 := by
  refine ⟨_, rfl, ?_, rfl⟩
  decide

end Dashboard

end ContainerBoard
