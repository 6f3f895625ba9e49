import ContainerBoard.Dashboard.Basic
import ContainerBoard.Feed

/-!
# Background work and the end of a dashboard

Between operations the background work has its turn: the daemon notices
handles that are gone, and the pipeline handles the events of its stream.
Time passes only when it is told to, and the janitor purges when it is due.
-/

namespace ContainerBoard.Dashboard

variable {ρ : Type} [Refresh ρ]

/-- The subscription that the pipeline listens to. -/
def ownSubscription (b : Dashboard ρ) : Subscription :=
  b.daemon.subscriptions.getD b.subscription { stream := { capacity := 0 } }

def runPipeline (b : Dashboard ρ) : Dashboard ρ :=
  let own := b.ownSubscription
  let turn :=
    b.pipeline.run own.signal.isRaised (b.daemon.hasEnded b.subscription) own.stream.queue
  if b.pipeline.isStopped then b
  else
    { b.log turn.log with
      pipeline := turn.pipeline
      events := b.events.pushAll turn.events
      redraws := refreshTimes turn.events.length b.redraws
      daemon := b.daemon.atSubscription b.subscription fun s =>
        { s with
          stream :=
            if turn.pipeline.isStopped then s.stream.hangUp else s.stream.emptied } }

/-- Gives the daemon and the pipeline their turns. -/
def settle (b : Dashboard ρ) : Dashboard ρ :=
  { b with daemon := b.daemon.observe }.runPipeline

def runJanitor (b : Dashboard ρ) : Dashboard ρ :=
  let turn := b.janitor.run (some b.cache) b.clock
  { b.log turn.log with janitor := turn.janitor, cache := turn.cache.getD b.cache }

/-- Ends the subscription, the janitor and the outbox.  Only the first time
does anything. -/
def close (b : Dashboard ρ) : Dashboard ρ :=
  if b.isClosed then b.log [.debug "Dashboard already closed"]
  else
    { b.log [.info "Dashboard closed"] with
      isClosed := true
      daemon := (b.daemon.cancel b.subscription).2
      janitor := .finished
      outbox := b.outbox.close }

/-- The dashboard goes away.  A pipeline whose end nobody waits for is
stopped. -/
def drop (b : Dashboard ρ) : Dashboard ρ :=
  let b := b.close
  if b.isJoined then b else { b with pipeline := b.pipeline.abort }

/-- Waits for the end of the pipeline, which all work that is left to do may
bring about.  Only the first who waits is told. -/
def join (b : Dashboard ρ) : Joined × Dashboard ρ :=
  if b.isJoined then (.already, b)
  else
    let b := { b.settle with isJoined := true }
    (if b.pipeline.isStopped then .handled b.pipeline.handled else .timeout, b)

/-- Hands out the consumer's end of the outbox; says whether it was still
there. -/
def takeChannel (b : Dashboard ρ) : Bool × Dashboard ρ :=
  (!b.isChannelTaken, { b with isChannelTaken := true })

end ContainerBoard.Dashboard
