import ContainerBoard.ByteCount
import ContainerBoard.Dashboard.Detail

/-!
# Actions that change the daemon

An action is announced on the status line, then the daemon is asked, and
then either the outcome or the failure is reported.
-/

namespace ContainerBoard

/-- An action that changes objects of the daemon. -/
inductive Mutation where
  | kill (id : String)
  | removeContainer (id : String)
  | removeImage (id : String) (force : Bool)
  | removeNetwork (id : String)
  | removeStopped
  | removeDangling
  | prune
  deriving DecidableEq, Repr

/-- An action on the object in a row. -/
inductive RowMutation where
  | kill (position : Nat)
  | removeContainer (position : Nat)
  | removeImage (position : Nat) (force : Bool)
  | removeNetwork (position : Nat)
  deriving DecidableEq, Repr

namespace Mutation

abbrev Answer : Mutation → Type
  | kill _ => Unit
  | removeContainer _ => Unit
  | removeImage _ _ => List ImageRemoval
  | removeNetwork _ => Unit
  | removeStopped => Nat
  | removeDangling => Nat
  | prune => PruneReport

def request : (m : Mutation) → Request m.Answer
  | kill id => .kill id
  | removeContainer id => .removeContainer id
  | removeImage id force => .removeImage id force
  | removeNetwork id => .removeNetwork id
  | removeStopped => .removeStopped
  | removeDangling => .removeDangling
  | prune => .prune

def announcement : Mutation → String
  | kill id => "Killing container with id " ++ ObjectId.short id
  | removeContainer id => "Removing container with id " ++ ObjectId.short id
  | removeImage id _ => "Removing image: " ++ ObjectId.short id
  | removeNetwork id => "Removing network: " ++ ObjectId.short id
  | removeStopped => "Removing all stopped containers"
  | removeDangling => "Removing dangling images"
  | prune => "Pruning unused objects"

def pruneSummary (report : PruneReport) : String :=
  "Pruned " ++ report.total.repr ++ " objects, reclaimed " ++
    ByteCount.format report.reclaimed.toNat

def outcome : (m : Mutation) → m.Answer → String
  | kill id, _ => "Killed container with id " ++ ObjectId.short id
  | removeContainer id, _ => "Removed container with id " ++ ObjectId.short id
  | removeImage id _, _ => "Removed image: " ++ ObjectId.short id
  | removeNetwork id, _ => "Removed network: " ++ ObjectId.short id
  | removeStopped, count => "Removed " ++ Nat.repr count ++ " stopped containers"
  | removeDangling, count => "Removed " ++ Nat.repr count ++ " dangling images"
  | prune, report => pruneSummary report

/-- What a failure report says was tried. -/
def action : Mutation → String
  | kill id => "killing container " ++ ObjectId.short id
  | removeContainer id => "removing container " ++ ObjectId.short id
  | removeImage id _ => "removing image " ++ ObjectId.short id
  | removeNetwork id => "removing network " ++ ObjectId.short id
  | removeStopped => "removing all stopped containers"
  | removeDangling => "removing dangling images"
  | prune => "running prune"

def successLog : (m : Mutation) → m.Answer → List LogLine
  | removeImage id _, steps =>
    [.debug ("Image " ++ id ++ " removal: " ++ Nat.repr (List.length steps) ++ " entries")]
  | prune, report => [.info (pruneSummary report)]
  | _, _ => []

end Mutation

namespace Dashboard

variable {ρ : Type} [Refresh ρ]

/-- Keeps what an action leaves to be read later: the report of a prune. -/
def keepResult (b : Dashboard ρ) : (m : Mutation) → m.Answer → Except ClockOverflow Cache
  | .prune, report => b.cache.put (.pruneReport report) b.config.reportTtl b.clock
  | _, _ => .ok b.cache

/-- Does an action.  After a prune the clock may overflow; the action then
breaks off with the daemon pruned. -/
def perform (b : Dashboard ρ) (m : Mutation) : Except ClockOverflow Unit × Dashboard ρ :=
  match (b.say m.announcement).fetch m.request with
  | (.error error, b) => (.ok (), b.reportFailure m.action error)
  | (.ok answer, b) =>
    match b.keepResult m answer with
    | .error overflow => (.error overflow, b)
    | .ok cache =>
      (.ok (),
        (({ b with cache }.log (m.successLog answer)).say (m.outcome answer)).refresh)

/-- Does an action that keeps no result. -/
def performNow (b : Dashboard ρ) (m : Mutation) : Dashboard ρ :=
  (b.perform m).2

/-- Does an action on the object in a row. -/
def performRow (b : Dashboard ρ) : RowMutation → Dashboard ρ
  | .kill position =>
    withRow (b.containerIdAt position) "killing container" fun id b =>
      b.performNow (.kill id)
  | .removeContainer position =>
    withRow (b.containerIdAt position) "removing container" fun id b =>
      b.performNow (.removeContainer id)
  | .removeImage position force =>
    withRow (b.imageIdAt position) "removing image" fun id b =>
      b.performNow (.removeImage id force)
  | .removeNetwork position =>
    withRow (b.networkIdAt position) "removing network" fun id b =>
      b.performNow (.removeNetwork id)

end Dashboard

end ContainerBoard
