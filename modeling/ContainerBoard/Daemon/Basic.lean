import ContainerBoard.CancelSignal
import ContainerBoard.Daemon.Request
import ContainerBoard.DaemonError
import ContainerBoard.EventStream
import ContainerBoard.KeyTable
import ContainerBoard.SortMode

/-!
# The daemon

The daemon keeps its objects in memory.  It records the requests it is given
and the sort orders it is told, and it can be made to fail.  Whoever
subscribes to its events gets a stream of their own, but only the newest
stream is sent to.
-/

namespace ContainerBoard

/-- A stream of events that was opened for a subscriber. -/
structure Subscription where
  stream : EventStream
  /-- The handle that the subscriber holds. -/
  signal : CancelSignal := .live
  /-- Whether the daemon noticed that the handle is gone. -/
  isReleased : Bool := false
  deriving DecidableEq

/-- A daemon with its objects in memory. -/
structure Daemon where
  containers : List Container := []
  images : List Image := []
  networks : List Network := []
  /-- The layers of images by id. -/
  layers : KeyTable String (List ImageLayer) := .empty
  host : Host := default
  services : List Service := []
  nodes : List Node := []
  tasks : List Task := []
  /-- The log lines of containers and services by id. -/
  logs : KeyTable String (List String) := .empty
  /-- The order of the network list. -/
  sort : SortMode := default
  /-- The orders that the daemon was told, oldest first. -/
  directives : List SortMode := []
  /-- The operations that fail at the moment. -/
  failures : KeyTable Operation DaemonError := .empty
  /-- The requests given so far, last one first. -/
  calls : List Call := []
  /-- All subscriptions, oldest first. -/
  subscriptions : List Subscription := []
  /-- The place of the subscription that is sent to. -/
  sender : Option Nat := none

instance : Inhabited Daemon := ⟨{}⟩

namespace Daemon

/-- How many events a stream has room for. -/
def streamCapacity : Nat := 64

/-- Whether the first network comes no later than the second in an order. -/
def inOrder : SortMode → Network → Network → Bool
  | .unsorted, _, _ => true
  | .byId, a, b => a.id ≤ b.id
  | .byName, a, b => a.name ≤ b.name
  | .byDriver, a, b => a.driver < b.driver || (a.driver == b.driver && a.name ≤ b.name)

/-- The networks in the order in force.  Networks that are equal in it stay
as they are stored. -/
def sortedNetworks (d : Daemon) : List Network :=
  match d.sort with
  | .unsorted => d.networks
  | mode => d.networks.mergeSort (inOrder mode)

/-- Changes the order of the network list. -/
def sortNetworks (d : Daemon) (mode : SortMode) : Daemon :=
  { d with sort := mode, directives := d.directives ++ [mode] }

/-- Makes an operation fail from now on. -/
def fail (d : Daemon) (operation : Operation) (error : DaemonError) : Daemon :=
  { d with failures := d.failures.insert operation error }

def clearFailure (d : Daemon) (operation : Operation) : Daemon :=
  { d with failures := d.failures.erase operation }

def callCount (d : Daemon) (operation : Operation) : Nat :=
  d.calls.countP fun call => call.operation = operation

def record (d : Daemon) (call : Call) : Daemon :=
  { d with calls := call :: d.calls }

end Daemon

end ContainerBoard
