import ContainerBoard.Dashboard.Basic
import ContainerBoard.Input.Bindings
import ContainerBoard.Screen.Rows

/-!
# Bodies of the screens

What the active screen shows between header and status line.  Lists are
fetched when they are shown; detail screens show their snapshots.
-/

namespace ContainerBoard

/-- What a screen shows between header and status line. -/
structure Body where
  lines : List Line
  /-- Whether the cursor moves over the lines. -/
  isSelectable : Bool
  deriving DecidableEq, Repr

namespace Body

/-- A list to select from. -/
def list (lines : List Line) : Body := ⟨lines, true⟩

/-- A text to read. -/
def text (lines : List Line) : Body := ⟨lines, false⟩

/-- A note about why there is nothing to show. -/
def note (message : String) : Body :=
  text [(Line.ofText message).styled .italic]

/-- The rows that the cursor can move over. -/
def rows (body : Body) : Nat :=
  if body.isSelectable then body.lines.length else 0

/-- A text, or a note if it would be empty. -/
def textOr (message : String) (lines : List Line) : Body :=
  if lines.isEmpty then note message else text lines

/-- The body made of an answer, or a note about the error. -/
def ofAnswer {α : Type} (answer : Except BoardError α) (body : α → Body) : Body :=
  match answer with
  | .ok value => body value
  | .error error => note error.message

/-- The body made of a snapshot, or a note that there is none. -/
def ofSnapshot {α : Type} (snapshot : Option α) (message : String) (body : α → Body) :
    Body :=
  match snapshot with
  | some value => body value
  | none => note message

/-- The tasks of a service or node. -/
def tasks (ts : List Task) : Body :=
  textOr "No tasks" (ts.map Row.task)

/-- The running containers. -/
def monitor (cs : List Container) : Body :=
  textOr "No running containers" ((cs.filter Container.isRunning).map Row.monitored)

def help : Body :=
  text (Bindings.helpLines.map fun (keys, description) => Row.field keys description)

end Body

namespace Dashboard

variable {ρ α : Type}

/-- A body that is fetched now. -/
def fetchBody (b : Dashboard ρ) (request : Request α) (body : α → Body) :
    Body × Dashboard ρ :=
  let (answer, b) := b.fetch request
  (.ofAnswer answer body, b)

/-- The list of networks, from the snapshot if it cannot be fetched. -/
def networksBody (b : Dashboard ρ) : Body × Dashboard ρ :=
  match b.fetch .networks with
  | (.ok ns, b) => (.list (ns.map Row.network), b)
  | (.error error, b) =>
    let line := "Live network list failed, using snapshot: " ++ error.message
    (.ofSnapshot b.snapshots.networks "Network list unavailable" fun ns =>
      .list (ns.map Row.network), b.log [.debug line])

def body (b : Dashboard ρ) : Body × Dashboard ρ :=
  match b.navigation.view with
  | .containers => b.fetchBody .containers fun cs => .list (cs.map Row.container)
  | .images => b.fetchBody .images fun is => .list (is.map Row.image)
  | .networks => b.networksBody
  | .inspectImage =>
    (.ofSnapshot b.snapshots.inspectedImage "No image inspected" fun i =>
      .text (Row.imageDetails i), b)
  | .inspectNetwork =>
    (.ofSnapshot b.snapshots.inspectedNetwork "No network inspected" fun n =>
      .text (Row.networkDetails n), b)
  | .imageHistory =>
    (.ofSnapshot b.snapshots.imageHistory "No image history loaded" fun layers =>
      .textOr "Image has no history" (layers.map Row.layer), b)
  | .diskUsage =>
    (.ofSnapshot b.pruneReport "No recent prune. Press p to prune unused objects." fun r =>
      .text (Row.report r), b)
  | .events => (.textOr "No events yet" (b.events.recent.map Row.event), b)
  | .help => (.help, b)
  | .info =>
    (.ofSnapshot b.snapshots.host "No host information loaded" fun h =>
      .text (Row.host h), b)
  | .monitor => b.fetchBody .containers Body.monitor
  | .nodes => b.fetchBody .nodes fun ns => .list (ns.map Row.node)
  | .services => b.fetchBody .services fun ss => .list (ss.map Row.service)
  | .serviceTasks =>
    match b.snapshots.service with
    | some id => b.fetchBody (.serviceTasks id) Body.tasks
    | none => (.note "No service selected", b)
  | .nodeTasks =>
    match b.snapshots.node with
    | some id => b.fetchBody (.nodeTasks id) Body.tasks
    | none => (.note "No node selected", b)

end Dashboard

end ContainerBoard
