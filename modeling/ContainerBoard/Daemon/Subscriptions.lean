import ContainerBoard.Daemon.Basic

/-!
# Events of the daemon

The daemon has one sender.  A new subscription takes it over, and when the
daemon notices that any handle is gone, it lets go of the sender.
-/

namespace ContainerBoard.Daemon

def atSubscription (d : Daemon) (place : Nat) (change : Subscription → Subscription) :
    Daemon :=
  { d with subscriptions := d.subscriptions.modify place change }

/-- Sends an event to the newest stream; says whether it was accepted. -/
def inject (d : Daemon) (event : DaemonEvent) : Bool × Daemon :=
  match d.sender with
  | none => (false, d)
  | some place =>
    match d.subscriptions[place]? with
    | none => (false, d)
    | some s =>
      let (accepted, stream) := s.stream.send event
      (accepted, d.atSubscription place fun s => { s with stream })

/-- Sends events in order; tells how many were accepted. -/
def injectAll (d : Daemon) : List DaemonEvent → Nat × Daemon
  | [] => (0, d)
  | event :: rest =>
    let (accepted, d) := d.inject event
    let (count, d) := d.injectAll rest
    ((if accepted then 1 else 0) + count, d)

/-- Whether a handle is gone and the daemon has not noticed. -/
def isUnnoticed (s : Subscription) : Bool :=
  s.signal.isRaised && !s.isReleased

/-- The daemon notices which handles are gone. -/
def observe (d : Daemon) : Daemon :=
  if d.subscriptions.any isUnnoticed then
    { d with
      sender := none
      subscriptions := d.subscriptions.map fun s =>
        { s with isReleased := s.isReleased || s.signal.isRaised } }
  else d

/-- How many subscriptions the daemon noticed to be gone. -/
def releases (d : Daemon) : Nat :=
  d.subscriptions.countP Subscription.isReleased

/-- Whether the stream in a place gets no more events. -/
def hasEnded (d : Daemon) (place : Nat) : Bool :=
  d.sender != some place

/-- The holder of a handle uses it; says whether there was one. -/
def cancel (d : Daemon) (place : Nat) : Bool × Daemon :=
  match d.subscriptions[place]? with
  | none => (false, d)
  | some s =>
    let (held, signal) := s.signal.cancel
    (held, d.atSubscription place fun s => { s with signal })

/-- The holder of a handle drops it; says whether there was one. -/
def abandon (d : Daemon) (place : Nat) : Bool × Daemon :=
  match d.subscriptions[place]? with
  | none => (false, d)
  | some s =>
    let (held, signal) := s.signal.abandon
    (held, d.atSubscription place fun s => { s with signal })

/-- A listener goes away; says whether there was one. -/
def hangUp (d : Daemon) (place : Nat) : Bool × Daemon :=
  match d.subscriptions[place]? with
  | none => (false, d)
  | some s =>
    (s.stream.isListening, d.atSubscription place fun s => { s with stream := s.stream.hangUp })

/-- What a look into a stream gives. -/
inductive Received where
  | event (event : DaemonEvent)
  /-- Nothing is there yet. -/
  | empty
  /-- Nothing will be there. -/
  | ended
  /-- The listener is gone. -/
  | gone
  deriving DecidableEq

/-- A listener takes the next event of its stream. -/
def receive (d : Daemon) (place : Nat) : Received × Daemon :=
  match d.subscriptions[place]? with
  | none => (.gone, d)
  | some s =>
    if !s.stream.isListening then (.gone, d)
    else
      match s.stream.receive with
      | (some event, stream) => (.event event, d.atSubscription place fun s => { s with stream })
      | (none, _) => (if d.hasEnded place then .ended else .empty, d)

end ContainerBoard.Daemon
