import ContainerBoard.Proofs.Dashboard.RowUse
import ContainerBoard.Proofs.Input.Cursor
import ContainerBoard.Proofs.Screen.Highlight

/-!
# The selected row

A screen that lists objects shows one line for each of them, in the order of the
daemon's list.  The cursor is clamped to these lines twice, when the list is
counted and when it is drawn, and the object in a row is looked for once more when
a command is given.  All of that agrees on which object is selected.
-/

namespace ContainerBoard

namespace Dashboard

variable {ρ : Type}

/-- A screen still lists the same objects.  Other things may have happened. -/
structure SameList (s : ListScreen) (b b' : Dashboard ρ) : Prop where
  view : b'.navigation.view = b.navigation.view
  items : s.items b'.daemon = s.items b.daemon
  failures : b'.daemon.failures = b.daemon.failures

theorem fetchBody_listing
    {s : ListScreen} {b : Dashboard ρ}
    (hlisting : b.daemon.failures.get? s.listing.operation = none)
    (bodyOf : List s.Item → Body) :
    b.fetchBody s.listing bodyOf =
      (bodyOf (s.items b.daemon), { b with daemon := b.daemon.record s.listing.call }) := by
  unfold fetchBody
  rw [fetch_listing b hlisting]
  rfl

theorem body_of_listing
    {s : ListScreen} {b : Dashboard ρ} (hview : b.navigation.view = s.view)
    (hlisting : b.daemon.failures.get? s.listing.operation = none) :
    b.body =
      (.list ((s.items b.daemon).map s.line),
        { b with daemon := b.daemon.record s.listing.call }) := by
  unfold body
  rw [hview]
  cases s with
  | networks =>
      change b.networksBody = _
      unfold networksBody
      rw [show b.fetch .networks = _ from fetch_listing b hlisting]
      rfl
  | _ => exact fetchBody_listing hlisting fun items => .list (items.map (ListScreen.line _))

theorem sameList_record (s : ListScreen) (b : Dashboard ρ) (call : Call) :
    SameList s b { b with daemon := b.daemon.record call } where
  view := rfl
  items := by cases s <;> rfl
  failures := rfl

variable [Refresh ρ]

/-- What is highlighted is what is acted on.  A screen with a list shows one line
for each listed object, in order.  After the cursor was moved into these lines, it
is on a line if there is one, and that line is drawn as the selected one.  As long
as the screen lists the same objects, every command for a selected object uses the
id of the object in that line, and asks the daemon about no object if the list is
empty. -/
theorem highlighted_is_used
    (s : ListScreen) (b : Dashboard ρ) (cursor : Cursor)
    (hview : b.navigation.view = s.view)
    (hlisting : b.daemon.failures.get? s.listing.operation = none)
    (hlookup : s.LookupWorks b.daemon) :
    let items := s.items b.daemon
    let lines := b.body.1.lines
    let selected := cursor.setRows b.body.1.rows
    let row := selected.selected
    (b.fetch s.listing).1 = .ok items ∧
      b.body.1 = .list (items.map s.line) ∧
      SameList s b b.body.2 ∧
      (items ≠ [] →
        row < items.length ∧
          ScreenModel.selectedRow lines.length selected = row ∧
          ∀ width height, 0 < height →
            (ScreenModel.listRows width height lines selected)[row -
                ScreenModel.firstRow height row]? =
              items[row]?.map fun item => ScreenModel.listRow width true (s.line item)) ∧
      ∀ b', SameList s b b' → ∀ command use, s.use? command = some use →
        let after := b'.dispatch command selected
        after.result = .ok false ∧
          UsesRow s row use items[row]? b' after.dashboard ∧
          (items = [] →
            after.dashboard.daemon.calls = s.lookup row :: b'.daemon.calls ∧
              after.dashboard.targets = b'.targets) := by
  intro items lines selected row
  have hbody := body_of_listing hview hlisting
  have hlines : lines = items.map s.line := congrArg (fun r => r.1.lines) hbody
  have hlength : lines.length = items.length := by
    rw [hlines, List.length_map]
  have hrows : b.body.1.rows = items.length := by
    rw [hbody]
    exact List.length_map _
  refine ⟨?_, ?_, ?_, ?_, ?_⟩
  -- the list, its lines, and nothing changed by showing them
  · rw [fetch_listing b hlisting]
  · rw [hbody]
  · rw [hbody]
    exact sameList_record s b s.listing.call
  -- the selected row stands in the list, so drawing does not move it
  · intro hitems
    have hpositive : 0 < b.body.1.rows := by
      rw [hrows]
      exact List.length_pos_of_ne_nil hitems
    have hrow : row < items.length := by
      rw [← hrows]
      exact cursor.selected_setRows_lt hpositive
    have hrow_line : selected.selected < lines.length := by
      rw [hlength]
      exact hrow
    refine ⟨hrow, ScreenModel.selectedRow_of_lt hrow_line, ?_⟩
    intro width height hheight
    have hdrawn := ScreenModel.getElem?_listRows_selected width hheight hrow_line
    rw [hlines, List.getElem?_map, Option.map_map] at hdrawn
    rw [hlines]
    exact hdrawn
  -- the lookup is in the list that was shown
  · intro b' hsame command use huse after
    have hview' : b'.navigation.view = s.view := hsame.view.trans hview
    have hlookup' : s.LookupWorks b'.daemon := by
      intro row
      rw [hsame.failures]
      exact hlookup row
    obtain ⟨hresult, huses⟩ := dispatch_usesRow huse hview' hlookup' selected
    rw [hsame.items] at huses
    refine ⟨hresult, huses, ?_⟩
    intro hempty
    have hnone : items[row]? = none := by
      rw [hempty]
      rfl
    have hcalls := huses.calls
    have htargets := huses.targets
    rw [show (s.items b.daemon)[selected.selected]? = none from hnone] at hcalls htargets
    constructor
    · cases use <;> exact hcalls
    · cases use <;> exact htargets

/-- A cursor far below the sample containers is on the last of them, and that is
the one that is killed. -/
theorem last_container_killed :
    ∃ b : Dashboard RedrawCount,
      start Sample.daemon default {} = .ok b ∧
        b.navigation.view = ListScreen.containers.view ∧
        b.daemon.failures.get? ListScreen.containers.listing.operation = none ∧
        ListScreen.containers.LookupWorks b.daemon ∧
        let selected := Cursor.setRows { selected := 99 } b.body.1.rows
        selected.selected = 3 ∧
          (b.body.2.dispatch .kill selected).dashboard.daemon.calls =
            [⟨.kill, .object "0f1e2d3c4b5a69788796a5b4c3d2e1f00f1e2d3c4b5a69788796a5b4c3d2e1f0"⟩,
             ⟨.containerAt, .row 3⟩, ⟨.containers, .nothing⟩, ⟨.subscribe, .nothing⟩] := by
  obtain ⟨b, hstart⟩ : ∃ b : Dashboard RedrawCount,
      start Sample.daemon default {} = .ok b := ⟨_, rfl⟩
  have hview : b.navigation.view = ListScreen.containers.view := by
    cases hstart
    rfl
  have hlisting :
      b.daemon.failures.get? ListScreen.containers.listing.operation = none := by
    cases hstart
    rfl
  have hlookup : ListScreen.containers.LookupWorks b.daemon := by
    intro row
    cases hstart
    rfl
  obtain ⟨-, -, hsame, -, huses⟩ :=
    highlighted_is_used .containers b { selected := 99 } hview hlisting hlookup
  have hkilled := (huses _ hsame .kill _ rfl).2.1.calls
  refine ⟨b, hstart, hview, hlisting, hlookup, ?_, ?_⟩
  · cases hstart
    rfl
  · cases hstart
    exact hkilled

end Dashboard

end ContainerBoard
