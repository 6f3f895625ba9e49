import ContainerBoard.Record.Host
import ContainerBoard.Record.Image
import ContainerBoard.Record.Network

/-!
# Snapshots

The data behind the detail screens, as it was when it was last fetched.
-/

namespace ContainerBoard

/-- What was last fetched for each detail screen. -/
structure Snapshots where
  imageHistory : Option (List ImageLayer) := none
  inspectedImage : Option ImageDetails := none
  inspectedNetwork : Option Network := none
  networks : Option (List Network) := none
  host : Option Host := none
  /-- The service whose tasks are listed. -/
  service : Option String := none
  /-- The node whose tasks are listed. -/
  node : Option String := none
  deriving DecidableEq, Inhabited

end ContainerBoard
