import ContainerBoard.Record.Container
import ContainerBoard.Record.Host
import ContainerBoard.Record.Image
import ContainerBoard.Record.Network
import ContainerBoard.Record.Swarm

/-!
# Requests to the daemon

A `Request α` is answered with an `α`.  Positions are rows of a list as it
is sorted at the moment, from zero.  Requests of one `Operation` are counted
together, and can be made to fail together.
-/

namespace ContainerBoard

/-- An operation of the daemon. -/
inductive Operation where
  | containerAt
  | containerById
  | imageAt
  | imageById
  | networkAt
  | networkById
  | containers
  | images
  | networks
  | nodes
  | services
  | tasks
  | inspectImage
  | inspectNetwork
  | history
  | info
  | service
  | logs
  | kill
  | removeContainer
  | removeImage
  | removeNetwork
  | removeStopped
  | removeDangling
  | prune
  | subscribe
  | ping
  deriving DecidableEq, Repr

/-- A request to the daemon with the type of its answer. -/
inductive Request : Type → Type where
  | containerAt (position : Nat) : Request Container
  | containerById (id : String) : Request Container
  | imageAt (position : Nat) : Request Image
  | imageById (id : String) : Request Image
  | networkAt (position : Nat) : Request Network
  | networkById (id : String) : Request Network
  | containers : Request (List Container)
  | images : Request (List Image)
  | networks : Request (List Network)
  | nodes : Request (List Node)
  | services : Request (List Service)
  | serviceTasks (id : String) : Request (List Task)
  | nodeTasks (id : String) : Request (List Task)
  | inspectImage (id : String) : Request ImageDetails
  | inspectNetwork (id : String) : Request Network
  | history (id : String) : Request (List ImageLayer)
  | info : Request Host
  | service (id : String) : Request Service
  | logs (id : String) : Request (List String)
  | serviceLogs (id : String) : Request (List String)
  | kill (id : String) : Request Unit
  | removeContainer (id : String) : Request Unit
  | removeImage (id : String) (force : Bool) : Request (List ImageRemoval)
  | removeNetwork (id : String) : Request Unit
  | removeStopped : Request Nat
  | removeDangling : Request Nat
  | prune : Request PruneReport
  | subscribe : Request Nat
  | ping : Request Bool

/-- What a request is about. -/
inductive Subject where
  | nothing
  | row (position : Nat)
  | object (id : String)
  deriving DecidableEq, Repr

namespace Request

def operation : {α : Type} → Request α → Operation
  | _, containerAt _ => .containerAt
  | _, containerById _ => .containerById
  | _, imageAt _ => .imageAt
  | _, imageById _ => .imageById
  | _, networkAt _ => .networkAt
  | _, networkById _ => .networkById
  | _, containers => .containers
  | _, images => .images
  | _, networks => .networks
  | _, nodes => .nodes
  | _, services => .services
  | _, serviceTasks _ => .tasks
  | _, nodeTasks _ => .tasks
  | _, inspectImage _ => .inspectImage
  | _, inspectNetwork _ => .inspectNetwork
  | _, history _ => .history
  | _, info => .info
  | _, service _ => .service
  | _, logs _ => .logs
  | _, serviceLogs _ => .logs
  | _, kill _ => .kill
  | _, removeContainer _ => .removeContainer
  | _, removeImage _ _ => .removeImage
  | _, removeNetwork _ => .removeNetwork
  | _, removeStopped => .removeStopped
  | _, removeDangling => .removeDangling
  | _, prune => .prune
  | _, subscribe => .subscribe
  | _, ping => .ping

def subject : {α : Type} → Request α → Subject
  | _, containerAt position => .row position
  | _, containerById id => .object id
  | _, imageAt position => .row position
  | _, imageById id => .object id
  | _, networkAt position => .row position
  | _, networkById id => .object id
  | _, serviceTasks id => .object id
  | _, nodeTasks id => .object id
  | _, inspectImage id => .object id
  | _, inspectNetwork id => .object id
  | _, history id => .object id
  | _, service id => .object id
  | _, logs id => .object id
  | _, serviceLogs id => .object id
  | _, kill id => .object id
  | _, removeContainer id => .object id
  | _, removeImage id _ => .object id
  | _, removeNetwork id => .object id
  | _, _ => .nothing

end Request

/-- A request that the daemon was given. -/
structure Call where
  operation : Operation
  subject : Subject
  deriving DecidableEq, Repr

/-- The record of a request. -/
def Request.call {α : Type} (request : Request α) : Call :=
  ⟨request.operation, request.subject⟩

end ContainerBoard
