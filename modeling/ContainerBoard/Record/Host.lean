import ContainerBoard.Record.Layout

/-!
# The host

The record of the daemon's host, and the report of what a prune removed
from it.
-/

namespace ContainerBoard

/-- The host that the daemon runs on. -/
structure Host where
  id : String
  name : String
  serverVersion : String := ""
  operatingSystem : String := ""
  processors : UInt32 := 0
  memory : Int64 := 0
  containers : UInt32 := 0
  containersRunning : UInt32 := 0
  images : UInt32 := 0
  deriving DecidableEq, Inhabited

def Host.layout : Layout Host where
  name := "HostInfo"
  Parts :=
    String × String × String × String × UInt32 × Int64 × UInt32 × UInt32 × UInt32 × Unit
  fields :=
    .cons (.needed "ID" .string) <|
    .cons (.needed "Name" .string) <|
    .cons (.defaulted "ServerVersion" .string "") <|
    .cons (.defaulted "OperatingSystem" .string "") <|
    .cons (.defaulted "NCPU" .unsigned32 0) <|
    .cons (.defaulted "MemTotal" .signed64 0) <|
    .cons (.defaulted "Containers" .unsigned32 0) <|
    .cons (.defaulted "ContainersRunning" .unsigned32 0) <|
    .cons (.defaulted "Images" .unsigned32 0) .nil
  toParts h :=
    (h.id, h.name, h.serverVersion, h.operatingSystem, h.processors, h.memory,
      h.containers, h.containersRunning, h.images, ())
  ofParts p :=
    let (id, name, serverVersion, operatingSystem, processors, memory,
      containers, containersRunning, images, ()) := p
    { id, name, serverVersion, operatingSystem, processors, memory,
      containers, containersRunning, images }

/-- What a prune removed. -/
structure PruneReport where
  containers : List String := []
  images : List String := []
  networks : List String := []
  volumes : List String := []
  /-- The bytes that are free again. -/
  reclaimed : UInt64 := 0
  deriving DecidableEq, Inhabited

namespace PruneReport

def layout : Layout PruneReport where
  name := "PruneReport"
  Parts := List String × List String × List String × List String × UInt64 × Unit
  fields :=
    .cons (.defaulted "ContainersDeleted" (.list .string) []) <|
    .cons (.defaulted "ImagesDeleted" (.list .string) []) <|
    .cons (.defaulted "NetworksDeleted" (.list .string) []) <|
    .cons (.defaulted "VolumesDeleted" (.list .string) []) <|
    .cons (.defaulted "SpaceReclaimed" .unsigned64 0) .nil
  toParts r := (r.containers, r.images, r.networks, r.volumes, r.reclaimed, ())
  ofParts p :=
    let (containers, images, networks, volumes, reclaimed, ()) := p
    { containers, images, networks, volumes, reclaimed }

/-- The number of objects removed. -/
def total (r : PruneReport) : Nat :=
  r.containers.length + r.images.length + r.networks.length + r.volumes.length

end PruneReport

end ContainerBoard
