import ContainerBoard.CancelSignal
import ContainerBoard.EventStream
import ContainerBoard.Pipeline

/-!
# Feeds

A feed is a pipeline together with all that it works on: the stream of
events, the handle that cancels it, the event log and the redraws.  The
pipeline has its turn only when the feed is settled.
-/

namespace ContainerBoard

/-- A pipeline with its stream, its handle, its log and its redraws. -/
structure Feed (ρ : Type) where
  stream : EventStream
  /-- Whether the sender of the stream is still there. -/
  hasSender : Bool := true
  signal : CancelSignal := .live
  pipeline : Pipeline := {}
  events : EventLog := default
  redraws : ρ
  /-- Whether someone asked for the end of the pipeline already. -/
  isJoined : Bool := false
  journal : Journal := []

/-- What becomes of waiting for the end of a pipeline. -/
inductive Joined where
  /-- The pipeline stopped after so many events. -/
  | handled (count : Nat)
  /-- The pipeline does not stop. -/
  | timeout
  /-- The end was waited for before. -/
  | already
  deriving DecidableEq, Repr

namespace Feed

variable {ρ : Type} [Refresh ρ]

/-- A feed whose stream and log have the given room. -/
def start (buffer capacity : Nat) (redraws : ρ) : Feed ρ :=
  { stream := { capacity := buffer }, events := .ofCapacity capacity, redraws }

/-- Sends an event; says whether it was accepted, or nothing without a
sender. -/
def send (feed : Feed ρ) (event : DaemonEvent) : Option Bool × Feed ρ :=
  if feed.hasSender then
    let (accepted, stream) := feed.stream.send event
    (some accepted, { feed with stream })
  else (none, feed)

/-- The sender goes away; says whether there was one. -/
def endStream (feed : Feed ρ) : Bool × Feed ρ :=
  (feed.hasSender, { feed with hasSender := false })

def cancel (feed : Feed ρ) : Bool × Feed ρ :=
  let (held, signal) := feed.signal.cancel
  (held, { feed with signal })

def abandon (feed : Feed ρ) : Bool × Feed ρ :=
  let (held, signal) := feed.signal.abandon
  (held, { feed with signal })

def settle (feed : Feed ρ) : Feed ρ :=
  let turn := feed.pipeline.run feed.signal.isRaised (!feed.hasSender) feed.stream.queue
  { feed with
    pipeline := turn.pipeline
    stream := if turn.pipeline.isStopped then feed.stream.hangUp else feed.stream.emptied
    events := feed.events.pushAll turn.events
    redraws := refreshTimes turn.events.length feed.redraws
    journal := turn.log.reverse ++ feed.journal }

def join (feed : Feed ρ) : Joined × Feed ρ :=
  if feed.isJoined then (.already, feed)
  else
    let feed := { feed.settle with isJoined := true }
    (if feed.pipeline.isStopped then .handled feed.pipeline.handled else .timeout, feed)

end Feed

end ContainerBoard
