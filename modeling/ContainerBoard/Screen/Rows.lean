import ContainerBoard.ByteCount
import ContainerBoard.ObjectId
import ContainerBoard.Record.Container
import ContainerBoard.Record.Event
import ContainerBoard.Record.Host
import ContainerBoard.Record.Image
import ContainerBoard.Record.Network
import ContainerBoard.Record.Swarm
import ContainerBoard.Screen.Theme

/-!
# Rows of the screens

How objects of the daemon are written as lines.
-/

namespace ContainerBoard.Row

open Text

/-- A name in bold with its value. -/
def field (name value : String) : Line where
  spans := [{ text := padRight 12 name, style := .bold }, { text := value }]

/-- A container in the list of containers. -/
def container (c : Container) : Line where
  spans :=
    [{ text := padRight 14 (ObjectId.short c.id) },
     { text := padRight 18 c.name },
     { text := padRight 16 c.image },
     { text := c.status,
       style := .colored (if c.isRunning then Theme.running else Theme.stopped) }]

/-- A container on the monitor. -/
def monitored (c : Container) : Line :=
  (Line.ofText (padRight 18 c.name ++ c.status)).styled (.colored Theme.running)

/-- What the list of images says about the tags. -/
def tagText (i : Image) : String :=
  if i.isDangling then "<none>" else String.intercalate ", " i.tags

/-- An image in the list of images. -/
def image (i : Image) : Line :=
  let line := Line.ofText
    (padRight 14 (ObjectId.short i.id) ++ padRight 28 (tagText i) ++
      padLeft 10 (ByteCount.formatSigned i.size.toInt))
  if i.isDangling then line.styled (.colored Theme.stopped) else line

/-- A network in the list of networks. -/
def network (n : Network) : Line :=
  .ofText
    (padRight 14 (ObjectId.short n.id) ++ padRight 16 n.name ++ padRight 10 n.driver ++
      padRight 8 n.scope ++ n.attached.size.repr ++ " containers")

def imageDetails (i : ImageDetails) : List Line :=
  [field "Id" i.id,
   field "Tags" (String.intercalate ", " i.tags),
   field "Parent" i.parent,
   field "Created" i.created,
   field "Platform" (i.os ++ "/" ++ i.architecture),
   field "Size" (ByteCount.formatSigned i.size.toInt)]

/-- A container attached to a network. -/
def attachment (a : Attachment) : Line :=
  .ofText ("  " ++ padRight 18 a.name ++ a.address)

/-- The attached containers by name. -/
def sortedAttachments (n : Network) : List Attachment :=
  n.attached.values.mergeSort fun a b => a.name ≤ b.name

def networkDetails (n : Network) : List Line :=
  [field "Id" n.id,
   field "Name" n.name,
   field "Driver" n.driver,
   field "Scope" n.scope,
   field "Internal" (if n.isInternal then "true" else "false"),
   field "Containers" n.attached.size.repr] ++
    (sortedAttachments n).map attachment

/-- A layer in the history of an image. -/
def layer (l : ImageLayer) : Line :=
  .ofText
    (padRight 14 (ObjectId.short l.id) ++
      padLeft 10 (ByteCount.formatSigned l.size.toInt) ++ "  " ++ l.createdBy)

def report (r : PruneReport) : List Line :=
  [field "Containers" r.containers.length.repr,
   field "Images" r.images.length.repr,
   field "Networks" r.networks.length.repr,
   field "Volumes" r.volumes.length.repr,
   field "Reclaimed" (ByteCount.format r.reclaimed.toNat)]

def event (e : DaemonEvent) : Line :=
  .ofText
    (e.time.clockText ++ "  " ++ padRight 10 e.kind ++ padRight 12 e.action ++
      ObjectId.short e.actor)

def host (h : Host) : List Line :=
  [field "Name" h.name,
   field "Server" h.serverVersion,
   field "OS" h.operatingSystem,
   field "CPUs" h.processors.toNat.repr,
   field "Memory" (ByteCount.formatSigned h.memory.toInt),
   field "Containers"
     (h.containers.toNat.repr ++ " (" ++ h.containersRunning.toNat.repr ++ " running)"),
   field "Images" h.images.toNat.repr]

/-- A node in the list of nodes. -/
def node (n : Node) : Line :=
  .ofText
    (padRight 14 (ObjectId.short n.id) ++ padRight 16 n.hostname ++ padRight 10 n.role ++
      n.state)

/-- A service in the list of services. -/
def service (s : Service) : Line :=
  .ofText
    (padRight 14 (ObjectId.short s.id) ++ padRight 16 s.name ++ padRight 16 s.image ++
      s.replicas.toNat.repr ++ " replicas")

/-- A task of a service or node. -/
def task (t : Task) : Line :=
  .ofText
    (padRight 10 t.id ++ padRight 16 (ObjectId.short t.serviceId) ++
      padRight 16 (ObjectId.short t.nodeId) ++ t.state)

end ContainerBoard.Row
