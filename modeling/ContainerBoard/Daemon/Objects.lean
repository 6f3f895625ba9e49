import ContainerBoard.Daemon.Basic

/-!
# Changes to the objects

What the requests that change objects do to the lists of the daemon.
-/

namespace ContainerBoard.Daemon

/-- The row of a list. -/
def rowOf {α : Type} (kind : Resource) (items : List α) (position : Nat) :
    Except DaemonError α :=
  match items[position]? with
  | some item => .ok item
  | none => .error (.positionOutOfRange kind position)

/-- The first object of a list with an id. -/
def objectOf {α : Type} (kind : Resource) (idOf : α → String) (items : List α)
    (id : String) : Except DaemonError α :=
  match items.find? fun item => idOf item == id with
  | some item => .ok item
  | none => .error (.notFound kind id)

def killed (c : Container) : Container :=
  { c with state := "exited", status := "Exited (137) Less than a second ago" }

/-- Replaces the first container with an id. -/
def replaceContainer (id : String) (change : Container → Container) :
    List Container → List Container
  | [] => []
  | c :: rest =>
    if c.id == id then change c :: rest else c :: replaceContainer id change rest

/-- Whether a container uses a tag of the image. -/
def isUsed (d : Daemon) (i : Image) : Bool :=
  d.containers.any fun c => i.tags.any (· == c.image)

/-- What is told about the removal of an image: its tags are gone one by one,
then the image. -/
def removalSteps (i : Image) : List ImageRemoval :=
  i.tags.map (fun tag => { untagged := some tag }) ++ [{ deleted := some i.id }]

/-- Whether a prune removes the network. -/
def isUnused (n : Network) : Bool :=
  !n.isUsed && !n.isPredefined

/-- The bytes that an image takes. -/
def imageBytes (i : Image) : Nat :=
  i.size.toInt.toNat

/-- What a prune reports.  The reclaimed bytes are a sum modulo `2 ^ 64`, as a build
without overflow checks computes it.  A build with them does not get as far as a report
if the sum is too large: it panics after the stopped containers and all images were taken
out of the daemon. -/
def pruneReport (d : Daemon) : PruneReport where
  containers := (d.containers.filter fun c => !c.isRunning).map Container.id
  images := (d.images.filter Image.isDangling).map Image.id
  networks := (d.networks.filter isUnused).map Network.id
  volumes := []
  reclaimed := UInt64.ofNat (((d.images.filter Image.isDangling).map imageBytes).foldr (· + ·) 0)

def pruned (d : Daemon) : Daemon :=
  { d with
    containers := d.containers.filter Container.isRunning
    images := d.images.filter fun i => !i.isDangling
    networks := d.networks.filter fun n => !isUnused n }

def detailsOf (i : Image) : ImageDetails where
  id := i.id
  tags := i.tags
  created :=
    match Timestamp.ofUnixSeconds? i.created.toInt with
    | some time => time.textWithOffset
    | none => ""
  architecture := "amd64"
  os := "linux"
  size := i.size

/-- The host with the numbers of its objects. -/
def hostNow (d : Daemon) : Host :=
  { d.host with
    containers := UInt32.ofNat d.containers.length
    containersRunning := UInt32.ofNat (d.containers.filter Container.isRunning).length
    images := UInt32.ofNat d.images.length }

end ContainerBoard.Daemon
