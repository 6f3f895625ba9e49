import ContainerBoard.EventLog
import ContainerBoard.LogLine
import ContainerBoard.Refresh

/-!
# The event pipeline

The pipeline takes the events of one stream in order, adds each to the event
log and asks for a redraw.  It stops when its subscription is cancelled, even
if events are left, or when the stream ends.
-/

namespace ContainerBoard

/-- The state of a pipeline. -/
structure Pipeline where
  hasStarted : Bool := false
  /-- Whether it is to stop at its next turn without a word. -/
  isAborted : Bool := false
  isStopped : Bool := false
  handled : Nat := 0
  deriving DecidableEq, Repr, Inhabited

namespace Pipeline

/-- What a turn of the pipeline does. -/
structure Turn where
  pipeline : Pipeline
  /-- The events handled, oldest first. -/
  events : List DaemonEvent
  log : List LogLine

/-- What the log says about an event. -/
def eventLine (event : DaemonEvent) : LogLine :=
  .debug ("Daemon event: " ++ event.kind ++ " " ++ event.action ++ " " ++ event.actor)

/-- What the log says at the beginning. -/
def startLog (pipeline : Pipeline) : List LogLine :=
  if pipeline.hasStarted then [] else [.info "Event pipeline started"]

/-- One turn: all events in the queue are handled, unless the subscription is
cancelled.  `hasEnded` says that no events will follow. -/
def run (pipeline : Pipeline) (isCancelled hasEnded : Bool) (queue : List DaemonEvent) :
    Turn :=
  if pipeline.isStopped then ⟨pipeline, [], []⟩
  else if pipeline.isAborted then ⟨{ pipeline with isStopped := true }, [], []⟩
  else if isCancelled then
    { pipeline := { pipeline with hasStarted := true, isStopped := true }
      events := []
      log := pipeline.startLog ++
        [.info ("Event pipeline cancelled after " ++ pipeline.handled.repr ++ " events")] }
  else
    let handled := pipeline.handled + queue.length
    { pipeline := { pipeline with hasStarted := true, isStopped := hasEnded, handled }
      events := queue
      log := pipeline.startLog ++ queue.map eventLine ++
        (if hasEnded then
          [.info ("Daemon event stream ended after " ++ handled.repr ++ " events")]
        else []) }

/-- Someone else stops the pipeline, which takes place at its next turn. -/
def abort (pipeline : Pipeline) : Pipeline :=
  { pipeline with isAborted := true }

end Pipeline

/-- Asks for some redraws. -/
def refreshTimes {ρ : Type} [Refresh ρ] : Nat → ρ → ρ
  | 0, redraws => redraws
  | n + 1, redraws => refreshTimes n (Refresh.refresh redraws)

end ContainerBoard
