import ContainerBoard.Proofs.Dashboard.Keys
import ContainerBoard.Proofs.Dashboard.RowUse

/-!
# Which list a command on the selected row is about

A command on the selected row asks the daemon for the object in that row of one list, and
then about nothing but that object.  Opening and removing a row are about the list that is
shown.  Killing, removing by force and the history of an image are about containers and
images whatever is shown; only the default bindings keep them to the screens of these lists.
-/

namespace ContainerBoard

/-- The operations that are about an object in a list. -/
def ListScreen.objectOperations : ListScreen → List Operation
  | containers => [.kill, .removeContainer]
  | images => [.inspectImage, .history, .removeImage]
  | networks => [.inspectNetwork, .removeNetwork]
  | services => []
  | nodes => []

namespace Command

/-- Whether the command is about the object in the selected row. -/
def isOnRow : Command → Bool
  | openSelected => true
  | history => true
  | kill => true
  | remove => true
  | forceRemove => true
  | _ => false

/-- The list that a command takes the selected row for a row of, on a screen. -/
def list? : Command → View → Option ListScreen
  | kill, _ => some .containers
  | history, _ => some .images
  | forceRemove, _ => some .images
  | openSelected, .images => some .images
  | openSelected, .networks => some .networks
  | openSelected, .services => some .services
  | openSelected, .nodes => some .nodes
  | remove, .containers => some .containers
  | remove, .images => some .images
  | remove, .networks => some .networks
  | _, _ => none

/-- Opening and removing a row are about the list that is shown. -/
theorem view_eq_of_list?
    {command : Command} {view : View} {s : ListScreen}
    (hcommand : command = .openSelected ∨ command = .remove)
    (hlist : command.list? view = some s) : view = s.view := by
  rcases hcommand with rfl | rfl
  · cases view <;> cases hlist <;> rfl
  · cases view <;> cases hlist <;> rfl

end Command

namespace ListScreen

variable {s : ListScreen} {command : Command}

theorem mem_objectOperations_of_use?
    {operation : Operation} (huse : s.use? command = some (.passed operation)) :
    operation ∈ s.objectOperations := by
  unfold use? at huse
  split at huse <;> cases huse <;> decide

/-- All rows of a list are looked up by the same operation. -/
theorem exists_failure_of_not_lookupWorks
    {d : Daemon} (hfails : ¬ s.LookupWorks d) (row : Nat) :
    ∃ error, d.failures.get? (s.lookup row).operation = some error := by
  obtain ⟨other, hother⟩ := not_forall.mp hfails
  apply Option.ne_none_iff_exists'.mp
  cases s <;> exact hother

end ListScreen

namespace Dashboard

variable {ρ : Type}

/-- The object in a row of a list was looked for, and nothing else was asked but what is
about the object that was found. -/
def AsksAbout (s : ListScreen) (row : Nat) (b b' : Dashboard ρ) : Prop :=
  ∃ made : List Call, b'.daemon.calls = made ++ s.lookup row :: b.daemon.calls ∧
    ∀ call ∈ made, call.operation ∈ s.objectOperations ∧
      ∃ item, (s.items b.daemon)[row]? = some item ∧ call.subject = .object (s.idOf item)

variable {s : ListScreen} {row : Nat} {b b' : Dashboard ρ}

/-- Where an object is used as its command says, nothing else is asked. -/
theorem UsesRow.asksAbout
    {command : Command} {use : Use} (huse : s.use? command = some use)
    (h : UsesRow s row use (s.items b.daemon)[row]? b b') : AsksAbout s row b b' := by
  refine ⟨_, h.calls, ?_⟩
  intro call hcall
  cases use with
  | passed operation =>
      cases hitem : (s.items b.daemon)[row]? with
      | none =>
          rw [hitem] at hcall
          cases hcall
      | some item =>
          rw [hitem] at hcall
          obtain rfl := List.mem_singleton.mp hcall
          exact ⟨ListScreen.mem_objectOperations_of_use? huse, item, rfl, rfl⟩
  | serviceTasks | nodeTasks => cases hcall

/-- A lookup that fails is all that is asked. -/
theorem asksAbout_of_record (h : b'.daemon = b.daemon.record (s.lookup row)) :
    AsksAbout s row b b' := by
  refine ⟨[], ?_, ?_⟩
  · rw [h]
    rfl
  · intro call hcall
    cases hcall

/-! ## Lookups that fail -/

theorem daemon_onRow_of_failure
    {r : ObjectRow} {action : String} {next : String → Dashboard ρ → Dashboard ρ}
    (b : Dashboard ρ) (hlooks : LooksIn s row r) (hfails : ¬ s.LookupWorks b.daemon) :
    (b.onRow r action next).daemon = b.daemon.record (s.lookup row) := by
  obtain ⟨error, hfailure⟩ := ListScreen.exists_failure_of_not_lookupWorks hfails row
  rw [← hlooks.call] at hfailure ⊢
  rw [onRow_of_error b (ObjectRow.objectId_of_failure hfailure)]
  rfl

theorem daemon_openListed_of_failure
    {what : String} {next : s.Item → Dashboard ρ → Dashboard ρ} (b : Dashboard ρ)
    (hlookup : s.lookup row = s.listing.call) (hfails : ¬ s.LookupWorks b.daemon) :
    (openListed (b.fetch s.listing) row what next).daemon =
      b.daemon.record (s.lookup row) := by
  obtain ⟨error, hfailure⟩ := ListScreen.exists_failure_of_not_lookupWorks hfails row
  rw [hlookup] at hfailure ⊢
  rw [fetch_of_failure b hfailure]
  rfl

variable [Refresh ρ]

theorem daemon_execute_of_failure
    {command : Command} {use : Use} (huse : s.use? command = some use)
    (hfails : ¬ s.LookupWorks b.daemon) (row : Nat) :
    (b.execute command s.view row).2.daemon = b.daemon.record (s.lookup row) := by
  rcases execute_cases (ρ := ρ) huse row with
    ⟨operation, -, r, action, next, hlooks, -, hrun⟩ | ⟨hlookup, what, next, -, hrun⟩
  · rw [show (b.execute command s.view row).2 = _ from hrun b]
    exact b.daemon_onRow_of_failure hlooks hfails
  · rw [show (b.execute command s.view row).2 = _ from hrun b]
    exact b.daemon_openListed_of_failure hlookup hfails

/-! ## Commands -/

variable {command : Command}

/-- A command on the selected row of a list asks about the object in it. -/
theorem asksAbout_execute
    {use : Use} (huse : s.use? command = some use) (b : Dashboard ρ) (row : Nat) :
    AsksAbout s row b (b.execute command s.view row).2 := by
  by_cases hworks : s.LookupWorks b.daemon
  · exact (execute_usesRow huse hworks row).2.asksAbout huse
  · exact asksAbout_of_record (daemon_execute_of_failure huse hworks row)

/-- What a command does about a list, it does as if the list were shown. -/
theorem execute_of_list?
    {view : View} (hlist : command.list? view = some s) :
    ∃ use, s.use? command = some use ∧
      ∀ (b : Dashboard ρ) row, b.execute command view row = b.execute command s.view row := by
  unfold Command.list? at hlist
  split at hlist <;> cases hlist <;> exact ⟨_, rfl, fun _ _ => rfl⟩

/-- A command on the selected row that is about no list does nothing. -/
theorem execute_of_list?_eq_none
    {view : View} (hcommand : command.isOnRow = true) (hlist : command.list? view = none)
    (b : Dashboard ρ) (row : Nat) : b.execute command view row = (.ok (), b) := by
  cases command with
  | history | kill | forceRemove => cases hlist
  | openSelected =>
      cases view with
      | images | networks | services | nodes => cases hlist
      | _ => rfl
  | remove =>
      cases view with
      | containers | images | networks => cases hlist
      | _ => rfl
  | _ => cases hcommand

end Dashboard

/-- By the default bindings, a command on the selected row is about the list that is
shown. -/
theorem Bindings.view_eq_of_commandFor
    {event : KeyEvent} {view : View} {command : Command} {s : ListScreen}
    (hcommand : defaults.commandFor event view = some command)
    (hlist : command.list? view = some s) : view = s.view := by
  have hentries : ∀ entry ∈ defaults.table.entries,
      entry.1.1 = some view ∨ entry.1.1 = none →
        ∀ s ∈ entry.2.list? view, view = s.view := by
    cases view <;> decide +kernel
  obtain ⟨scope, combo, hbound, hscope⟩ := exists_bound_of_commandFor hcommand
  exact hentries _ hbound hscope s hlist

namespace Dashboard

variable {ρ : Type} [Refresh ρ]

/-- What a command on the selected row asks the daemon.

* It looks for the row in one list, and asks about the object there, if there is one.
* Where there is no list that it could be about, it does nothing.
* Opening and removing a row are about the list that is shown.
* By the default bindings, so are the others. -/
theorem row_commands_ask_about_one_list
    (b : Dashboard ρ) (command : Command) (cursor : Cursor) :
    let view := b.navigation.view
    let after := fun b : Dashboard ρ => (b.dispatch command cursor).dashboard
    (∀ s, command.list? view = some s → AsksAbout s cursor.selected b (after b)) ∧
      (command.isOnRow = true → command.list? view = none →
        (after b).daemon = b.daemon ∧ Unmoved b (after b) ∧ Offers after b []) ∧
      (command = .openSelected ∨ command = .remove →
        ∀ s, command.list? view = some s → view = s.view) ∧
      (∀ event s, Bindings.defaults.commandFor event view = some command →
        command.list? view = some s → view = s.view) := by
  intro view after
  refine ⟨?_, ?_, ?_, ?_⟩
  · intro s hlist
    obtain ⟨use, huse, hexecute⟩ := execute_of_list? (ρ := ρ) hlist
    obtain ⟨lines, hafter⟩ := b.dashboard_dispatch command cursor
    have hasks := asksAbout_execute huse (b.log lines) cursor.selected
    rw [← hexecute, ← hafter] at hasks
    exact hasks
  · intro hcommand hlist
    have hafter (b' : Dashboard ρ) (hview : b'.navigation.view = view) :
        ∃ lines, after b' = b'.log lines := by
      obtain ⟨lines, hdispatch⟩ := b'.dashboard_dispatch command cursor
      rw [hview, execute_of_list?_eq_none hcommand hlist] at hdispatch
      exact ⟨lines, hdispatch⟩
    obtain ⟨lines, hlogged⟩ := hafter b rfl
    refine ⟨?_, ?_, ?_⟩
    · rw [hlogged]
      rfl
    · rw [hlogged]
      exact ⟨⟨rfl, rfl, rfl, rfl⟩, rfl, rfl, rfl⟩
    · intro box
      obtain ⟨lines, hlogged⟩ := hafter { b with outbox := box } rfl
      rw [hlogged]
      rfl
  · intro hcommand s hlist
    exact Command.view_eq_of_list? hcommand hlist
  · intro event s hcommand hlist
    exact Bindings.view_eq_of_commandFor hcommand hlist

/-- The first of the sample containers is killed from the list of images. -/
theorem container_killed_from_images :
    ∃ b : Dashboard RedrawCount,
      start Sample.daemon default {} = .ok b ∧
        let b := (b.dispatch .showImages {}).dashboard
        b.navigation.view = .images ∧
          (b.dispatch .kill {}).dashboard.daemon.calls =
            [⟨.kill, .object Sample.webContainerId⟩, ⟨.containerAt, .row 0⟩] ++
              b.daemon.calls :=
  ⟨_, rfl, rfl, rfl⟩

end Dashboard

end ContainerBoard
