import ContainerBoard.Input.Command
import ContainerBoard.Input.Key
import ContainerBoard.KeyTable
import ContainerBoard.View

/-!
# Key bindings

A key is bound to a command on one screen, or on all screens.  The binding
of the screen comes first.
-/

namespace ContainerBoard

/-- Where a binding holds: on one screen, or on all. -/
abbrev BindingScope := Option View

/-- The commands that keys are bound to. -/
structure Bindings where
  table : KeyTable (BindingScope × KeyCombo) Command
  deriving DecidableEq

namespace Bindings

/-- The bindings for all screens. -/
def globalDefaults : List (KeyCombo × Command) :=
  [(.ofChar 'q', .quit),
   ({ code := .char 'c', modifiers := { control := true } }, .quit),
   ({ code := .esc }, .back),
   (.ofChar '1', .showContainers),
   (.ofChar '2', .showImages),
   (.ofChar '3', .showNetworks),
   (.ofChar '4', .showNodes),
   (.ofChar '5', .showServices),
   (.ofChar 'm', .showMonitor),
   (.ofChar 'e', .showEvents),
   (.ofChar 'i', .showInfo),
   (.ofChar 'd', .showDiskUsage),
   (.ofChar '?', .showHelp),
   ({ code := .up }, .moveUp),
   (.ofChar 'k', .moveUp),
   ({ code := .down }, .moveDown),
   (.ofChar 'j', .moveDown)]

/-- The bindings for single screens. -/
def screenDefaults : List (View × List (KeyCombo × Command)) :=
  [(.containers,
    [(.ofChar 'K', .kill), (.ofChar 'r', .remove), (.ofChar 'S', .removeAllStopped)]),
   (.images,
    [({ code := .enter }, .openSelected), (.ofChar 'h', .history), (.ofChar 'r', .remove),
     (.ofChar 'R', .forceRemove), (.ofChar 'D', .removeDangling)]),
   (.networks,
    [({ code := .enter }, .openSelected), (.ofChar 'r', .remove),
     (.ofChar 's', .sortNetworks)]),
   (.nodes, [({ code := .enter }, .openSelected)]),
   (.services, [({ code := .enter }, .openSelected)]),
   (.diskUsage, [(.ofChar 'p', .prune)])]

/-- The bindings that hold unless they are edited. -/
def defaults : Bindings where
  table := .ofList
    (globalDefaults.map (fun (combo, command) => ((none, combo), command)) ++
      screenDefaults.flatMap fun (view, bindings) =>
        bindings.map fun (combo, command) => ((some view, combo), command))

instance : Inhabited Bindings := ⟨defaults⟩

/-- Binds the key of an event to a command, or takes its binding away. -/
def edit (b : Bindings) (scope : BindingScope) (event : KeyEvent) :
    Option Command → Bindings
  | some command => ⟨b.table.insert (scope, .ofEvent event) command⟩
  | none => ⟨b.table.erase (scope, .ofEvent event)⟩

/-- The command that an event stands for on a screen.  Letting a key go
stands for none. -/
def commandFor (b : Bindings) (event : KeyEvent) (view : View) : Option Command :=
  if event.kind = .release then none
  else
    (b.table.get? (some view, .ofEvent event)).or (b.table.get? (none, .ofEvent event))

/-- What the help screen says: keys and what they do. -/
def helpLines : List (String × String) :=
  [("1 2 3 4 5", "containers, images, networks, nodes, services"),
   ("m e i d", "monitor, events, info, disk usage"),
   ("Up/Down, k/j", "move selection"),
   ("Enter", "inspect image or network, list tasks"),
   ("h", "image history"),
   ("K", "kill container"),
   ("r / R", "remove / force remove image"),
   ("S", "remove all stopped containers"),
   ("D", "remove dangling images"),
   ("p", "prune (disk usage screen)"),
   ("s", "sort networks"),
   ("Esc", "back"),
   ("q", "quit")]

end Bindings

end ContainerBoard
