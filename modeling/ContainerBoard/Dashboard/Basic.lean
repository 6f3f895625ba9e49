import ContainerBoard.BoardError
import ContainerBoard.Cache
import ContainerBoard.Config
import ContainerBoard.Daemon.Answer
import ContainerBoard.Daemon.Subscriptions
import ContainerBoard.Dashboard.Snapshots
import ContainerBoard.Janitor
import ContainerBoard.Navigation
import ContainerBoard.Outbox
import ContainerBoard.Pipeline

/-!
# The dashboard

A dashboard is where the user is, what was fetched for the screens, the
result cache, the outbox for the status line, and the pipeline that turns
events of the daemon into redraws.  It works on its daemon by requests.
-/

namespace ContainerBoard

/-- A dashboard with its daemon.  Redraws are asked for in `ρ`. -/
structure Dashboard (ρ : Type) where
  daemon : Daemon
  config : Config
  navigation : Navigation
  snapshots : Snapshots := {}
  cache : Cache := {}
  outbox : Outbox
  events : EventLog := default
  redraws : ρ
  pipeline : Pipeline := {}
  janitor : Janitor
  /-- The place of the subscription that the pipeline listens to. -/
  subscription : Nat
  isClosed : Bool := false
  /-- Whether someone waited for the end of the pipeline. -/
  isJoined : Bool := false
  /-- Whether the consumer's end of the outbox was handed out. -/
  isChannelTaken : Bool := false
  /-- The time in milliseconds. -/
  clock : Nat := 0
  /-- The log, last line first. -/
  journal : Journal := []

namespace Dashboard

variable {ρ α : Type}

/-- Adds lines to the log, oldest first. -/
def log (b : Dashboard ρ) (lines : List LogLine) : Dashboard ρ :=
  { b with journal := lines.reverse ++ b.journal }

/-- Opens a dashboard on a daemon.  That fails only if the daemon gives no
subscription; the daemon keeps a record of the request in any case. -/
def start (daemon : Daemon) (redraws : ρ) (config : Config) :
    Except (BoardError × Daemon) (Dashboard ρ) :=
  match daemon.call .subscribe with
  | (.error error, daemon) => .error (.daemon error, daemon)
  | (.ok subscription, daemon) =>
    .ok
      { daemon := daemon.sortNetworks config.initialSort
        config
        navigation := .start default config.initialSort
        outbox := .ofCapacity config.outboxCapacity
        redraws
        janitor := .start 0 config.cleanupInterval
        subscription
        journal :=
          [.info ("Dashboard started (sort: " ++ config.initialSort.label ++
            ", outbox capacity: " ++ config.outboxCapacity.repr ++ ")")] }

/-- Gives the daemon a request. -/
def ask (b : Dashboard ρ) (request : Request α) : Except DaemonError α × Dashboard ρ :=
  let (answer, daemon) := b.daemon.call request
  (answer, { b with daemon })

/-- Gives the daemon a request on behalf of the user. -/
def fetch (b : Dashboard ρ) (request : Request α) : Except BoardError α × Dashboard ρ :=
  let (answer, b) := b.ask request
  (answer.mapError .daemon, b)

def fetchRow (b : Dashboard ρ) (kind : Resource) (position : Nat) (request : Request α) :
    Except BoardError α × Dashboard ρ :=
  let (answer, b) := b.ask request
  (answer.mapError (.resolution kind position), b)

def containerAt (b : Dashboard ρ) (position : Nat) :
    Except BoardError Container × Dashboard ρ :=
  b.fetchRow .container position (.containerAt position)

def imageAt (b : Dashboard ρ) (position : Nat) : Except BoardError Image × Dashboard ρ :=
  b.fetchRow .image position (.imageAt position)

def networkAt (b : Dashboard ρ) (position : Nat) :
    Except BoardError Network × Dashboard ρ :=
  b.fetchRow .network position (.networkAt position)

/-- Offers a message to the consumer of the outbox. -/
def emit (b : Dashboard ρ) (message : String) : EmitOutcome × Dashboard ρ :=
  let (outcome, outbox) := b.outbox.emit message
  (outcome, { b.log (b.outbox.emitLog message) with outbox })

/-- Offers a message and does not care what becomes of it. -/
def say (b : Dashboard ρ) (message : String) : Dashboard ρ :=
  (b.emit message).2

def refresh [Refresh ρ] (b : Dashboard ρ) : Dashboard ρ :=
  { b with redraws := Refresh.refresh b.redraws }

/-- Logs the failure of an action and reports it on the status line. -/
def reportFailure (b : Dashboard ρ) (action : String) (error : BoardError) :
    Dashboard ρ :=
  let line : LogLine :=
    { level := .warn, message := "Failed " ++ action ++ ": " ++ error.message,
      transient := some error.cause.isTransient }
  (b.log [line]).say (error.userMessage action)

/-- The report of the last prune, while it is cached. -/
def pruneReport (b : Dashboard ρ) : Option PruneReport :=
  b.cache.pruneReport b.clock

/-- The state in debugging output. -/
def debugText (b : Dashboard ρ) : String :=
  "Dashboard \x7b view_mode: " ++ b.navigation.view.debugName ++ ", sort_mode: " ++
    b.navigation.sort.debugName ++ ", closed: " ++
    (if b.isClosed then "true" else "false") ++ ", .. \x7d"

end Dashboard

end ContainerBoard
