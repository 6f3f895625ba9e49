import ContainerBoard.Dashboard.Mutation
import ContainerBoard.Input.Command
import ContainerBoard.Input.Cursor

/-!
# Doing what a command says

A command works on the dashboard, for the row under the cursor.
-/

namespace ContainerBoard

/-- What is left after a command. -/
structure Dispatched (ρ : Type) where
  /-- Whether the program is to end, unless the clock overflowed. -/
  result : Except ClockOverflow Bool
  dashboard : Dashboard ρ
  cursor : Cursor

namespace Dashboard

variable {ρ : Type} [Refresh ρ]

/-- Shows the tasks of the object in a row of a list that is fetched now.  A
row that the list does not have is passed over. -/
def openListed {α : Type} (answer : Except BoardError (List α) × Dashboard ρ)
    (row : Nat) (what : String) (next : α → Dashboard ρ → Dashboard ρ) : Dashboard ρ :=
  match answer with
  | (.ok items, b) =>
    match items[row]? with
    | some item => next item b
    | none => b
  | (.error error, b) => b.say (error.userMessage ("listing " ++ what))

/-- Opens the row of the list on a screen. -/
def openSelected (b : Dashboard ρ) (view : View) (row : Nat) : Dashboard ρ :=
  match view with
  | .images => b.openRow (.image row)
  | .networks => b.openRow (.network row)
  | .services =>
    openListed (b.fetch .services) row "services" fun s b => b.showServiceTasks s.id
  | .nodes => openListed (b.fetch .nodes) row "nodes" fun n b => b.showNodeTasks n.id
  | _ => b

/-- Removes the object in the row of the list on a screen. -/
def removeSelected (b : Dashboard ρ) (view : View) (row : Nat) : Dashboard ρ :=
  match view with
  | .containers => b.performRow (.removeContainer row)
  | .images => b.performRow (.removeImage row false)
  | .networks => b.performRow (.removeNetwork row)
  | _ => b

/-- Shows the host, or says why it cannot be shown. -/
def showHost (b : Dashboard ρ) : Dashboard ρ :=
  match b.load .host with
  | (.ok (), b) => b
  | (.error error, b) =>
    (b.log [.warn ("Host info unavailable: " ++ error.message)]).say
      (error.userMessage "retrieving host info")

/-- What a command does to the dashboard. -/
def execute (b : Dashboard ρ) (command : Command) (view : View) (row : Nat) :
    Except ClockOverflow Unit × Dashboard ρ :=
  match command with
  | .quit => (.ok (), b)
  | .back => (.ok (), b.showMain)
  | .showContainers => (.ok (), b.showView .containers)
  | .showImages => (.ok (), b.showView .images)
  | .showNetworks => (.ok (), b.openDetail .networks)
  | .showNodes => (.ok (), b.showView .nodes)
  | .showServices => (.ok (), b.showView .services)
  | .showMonitor => (.ok (), b.showView .monitor)
  | .showEvents => (.ok (), b.showView .events)
  | .showInfo => (.ok (), b.showHost)
  | .showDiskUsage => (.ok (), b.showView .diskUsage)
  | .showHelp => (.ok (), b.showView .help)
  | .moveUp => (.ok (), b)
  | .moveDown => (.ok (), b)
  | .openSelected => (.ok (), b.openSelected view row)
  | .history => (.ok (), b.openRow (.history row))
  | .kill => (.ok (), b.performRow (.kill row))
  | .remove => (.ok (), b.removeSelected view row)
  | .forceRemove => (.ok (), b.performRow (.removeImage row true))
  | .removeAllStopped => b.perform .removeStopped
  | .removeDangling => b.perform .removeDangling
  | .prune => b.perform .prune
  | .sortNetworks => (.ok (), b.sortNetworks)

/-- What a command does to the cursor, given the screens before and after
it. -/
def moveCursor (command : Command) (before after : View) (cursor : Cursor) : Cursor :=
  let moved :=
    match command with
    | .moveUp => cursor.up
    | .moveDown => cursor.down
    | _ => cursor
  if command.changesScreen && after != before then moved.reset else moved

/-- Does what a command says for the row under the cursor. -/
def dispatch (b : Dashboard ρ) (command : Command) (cursor : Cursor) : Dispatched ρ :=
  let view := b.navigation.view
  let line := "Dispatching " ++ command.debugName ++ " on " ++ view.debugName ++ " row " ++
    cursor.selected.repr
  match (b.log [.debug line]).execute command view cursor.selected with
  | (.error overflow, b) => ⟨.error overflow, b, cursor⟩
  | (.ok (), b) =>
    if command = .quit then ⟨.ok true, b, cursor⟩
    else ⟨.ok false, b, moveCursor command view b.navigation.view cursor⟩

end Dashboard

end ContainerBoard
