/-!
# Commands

What a key can make the dashboard do.
-/

namespace ContainerBoard

/-- What a key can make the dashboard do. -/
inductive Command where
  | quit
  | back
  | showContainers
  | showImages
  | showNetworks
  | showNodes
  | showServices
  | showMonitor
  | showEvents
  | showInfo
  | showDiskUsage
  | showHelp
  | moveUp
  | moveDown
  | openSelected
  | history
  | kill
  | remove
  | forceRemove
  | removeAllStopped
  | removeDangling
  | prune
  | sortNetworks
  deriving DecidableEq, Repr

namespace Command

/-- Whether the command is one to go to another screen. -/
def changesScreen : Command → Bool
  | back => true
  | showContainers => true
  | showImages => true
  | showNetworks => true
  | showNodes => true
  | showServices => true
  | showMonitor => true
  | showEvents => true
  | showInfo => true
  | showDiskUsage => true
  | showHelp => true
  | _ => false

/-- The command's name in debugging output. -/
def debugName : Command → String
  | quit => "Quit"
  | back => "Back"
  | showContainers => "ShowContainers"
  | showImages => "ShowImages"
  | showNetworks => "ShowNetworks"
  | showNodes => "ShowNodes"
  | showServices => "ShowServices"
  | showMonitor => "ShowMonitor"
  | showEvents => "ShowEvents"
  | showInfo => "ShowInfo"
  | showDiskUsage => "ShowDiskUsage"
  | showHelp => "ShowHelp"
  | moveUp => "MoveUp"
  | moveDown => "MoveDown"
  | openSelected => "OpenSelected"
  | history => "History"
  | kill => "Kill"
  | remove => "Remove"
  | forceRemove => "ForceRemove"
  | removeAllStopped => "RemoveAllStopped"
  | removeDangling => "RemoveDangling"
  | prune => "Prune"
  | sortNetworks => "SortNetworks"

def all : List Command :=
  [quit, back, showContainers, showImages, showNetworks, showNodes, showServices,
   showMonitor, showEvents, showInfo, showDiskUsage, showHelp, moveUp, moveDown,
   openSelected, history, kill, remove, forceRemove, removeAllStopped, removeDangling,
   prune, sortNetworks]

end Command

end ContainerBoard
