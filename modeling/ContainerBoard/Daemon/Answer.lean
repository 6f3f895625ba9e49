import ContainerBoard.Daemon.Objects

/-!
# Answers

How the daemon answers requests.  Every request is recorded.  If its
operation was made to fail, it fails with that error before anything else is
looked at; and a request that fails changes nothing.
-/

namespace ContainerBoard.Daemon

variable {α : Type}

/-- An answer that leaves the daemon as it is. -/
def answerOnly (d : Daemon) (answer : Except DaemonError α) :
    Except DaemonError (α × Daemon) :=
  answer.map fun value => (value, d)

/-- Stops a running container. -/
def kill (d : Daemon) (id : String) : Except DaemonError (Unit × Daemon) := do
  let c ← objectOf .container Container.id d.containers id
  if c.isRunning then
    .ok ((), { d with containers := replaceContainer id killed d.containers })
  else .error (.refused ("container " ++ c.name ++ " is not running"))

/-- Removes a container that is not running. -/
def removeContainer (d : Daemon) (id : String) : Except DaemonError (Unit × Daemon) := do
  let c ← objectOf .container Container.id d.containers id
  if c.isRunning then
    .error (.refused "cannot remove a running container, stop it first")
  else
    .ok ((), { d with containers := d.containers.eraseP fun c => c.id == id })

/-- Removes an image; one that a container uses only by force. -/
def removeImage (d : Daemon) (id : String) (force : Bool) :
    Except DaemonError (List ImageRemoval × Daemon) := do
  let i ← objectOf .image Image.id d.images id
  if d.isUsed i && !force then
    .error (.refused "image is being used by a container, use force to remove")
  else
    .ok (removalSteps i, { d with images := d.images.eraseP fun i => i.id == id })

/-- Removes a network that the daemon did not make itself. -/
def removeNetwork (d : Daemon) (id : String) : Except DaemonError (Unit × Daemon) := do
  let n ← objectOf .network Network.id d.networks id
  if n.isPredefined then
    .error (.refused (n.name ++ " is a pre-defined network and cannot be removed"))
  else
    .ok ((), { d with networks := d.networks.eraseP fun n => n.id == id })

def removeStopped (d : Daemon) : Nat × Daemon :=
  let kept := d.containers.filter Container.isRunning
  (d.containers.length - kept.length, { d with containers := kept })

/-- Removes the images without a tag. -/
def removeDangling (d : Daemon) : Nat × Daemon :=
  let kept := d.images.filter fun i => !i.isDangling
  (d.images.length - kept.length, { d with images := kept })

/-- Opens a stream, which is the one sent to from now on. -/
def subscribe (d : Daemon) : Nat × Daemon :=
  let place := d.subscriptions.length
  (place,
    { d with
      subscriptions := d.subscriptions ++ [{ stream := { capacity := streamCapacity } }]
      sender := some place })

/-- The tasks that satisfy a test, if the object they belong to exists. -/
def tasksOf (d : Daemon) (owner : Except DaemonError α) (belongs : Task → Bool) :
    Except DaemonError (List Task) :=
  owner.map fun _ => d.tasks.filter belongs

/-- The log lines of an object, if it exists. -/
def logsOf (d : Daemon) (owner : Except DaemonError α) (id : String) :
    Except DaemonError (List String) :=
  owner.map fun _ => (d.logs.get? id).getD []

/-- The answer to a request of an operation that works. -/
def answer (d : Daemon) : {α : Type} → Request α → Except DaemonError (α × Daemon)
  | _, .containerAt position => d.answerOnly (rowOf .container d.containers position)
  | _, .containerById id => d.answerOnly (objectOf .container Container.id d.containers id)
  | _, .imageAt position => d.answerOnly (rowOf .image d.images position)
  | _, .imageById id => d.answerOnly (objectOf .image Image.id d.images id)
  | _, .networkAt position => d.answerOnly (rowOf .network d.sortedNetworks position)
  | _, .networkById id => d.answerOnly (objectOf .network Network.id d.networks id)
  | _, .containers => .ok (d.containers, d)
  | _, .images => .ok (d.images, d)
  | _, .networks => .ok (d.sortedNetworks, d)
  | _, .nodes => .ok (d.nodes, d)
  | _, .services => .ok (d.services, d)
  | _, .serviceTasks id =>
    d.answerOnly
      (d.tasksOf (objectOf .service Service.id d.services id) fun t => t.serviceId == id)
  | _, .nodeTasks id =>
    d.answerOnly (d.tasksOf (objectOf .node Node.id d.nodes id) fun t => t.nodeId == id)
  | _, .inspectImage id =>
    d.answerOnly ((objectOf .image Image.id d.images id).map detailsOf)
  | _, .inspectNetwork id => d.answerOnly (objectOf .network Network.id d.networks id)
  | _, .history id =>
    d.answerOnly
      ((objectOf .image Image.id d.images id).map fun _ => (d.layers.get? id).getD [])
  | _, .info => .ok (d.hostNow, d)
  | _, .service id => d.answerOnly (objectOf .service Service.id d.services id)
  | _, .logs id =>
    d.answerOnly (d.logsOf (objectOf .container Container.id d.containers id) id)
  | _, .serviceLogs id =>
    d.answerOnly (d.logsOf (objectOf .service Service.id d.services id) id)
  | _, .kill id => d.kill id
  | _, .removeContainer id => d.removeContainer id
  | _, .removeImage id force => d.removeImage id force
  | _, .removeNetwork id => d.removeNetwork id
  | _, .removeStopped => .ok d.removeStopped
  | _, .removeDangling => .ok d.removeDangling
  | _, .prune => .ok (d.pruneReport, d.pruned)
  | _, .subscribe => .ok d.subscribe
  | _, .ping => .ok (true, d)

/-- Gives the daemon a request. -/
def call (d : Daemon) (request : Request α) : Except DaemonError α × Daemon :=
  let d := d.record request.call
  match d.failures.get? request.operation with
  | some error => (.error error, d)
  | none =>
    match d.answer request with
    | .ok (value, d) => (.ok value, d)
    | .error error => (.error error, d)

end ContainerBoard.Daemon
