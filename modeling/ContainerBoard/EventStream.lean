import ContainerBoard.Record.Event

/-!
# Streams of events

Events on their way from the daemon to a listener.  A stream holds a limited
number of events; one that finds no room is refused.
-/

namespace ContainerBoard

/-- Events on their way to a listener. -/
structure EventStream where
  /-- How many events the stream has room for. -/
  capacity : Nat
  /-- The events on their way, oldest first. -/
  queue : List DaemonEvent := []
  /-- Whether there is still a listener. -/
  isListening : Bool := true
  deriving DecidableEq

namespace EventStream

/-- Sends an event; says whether it was accepted. -/
def send (stream : EventStream) (event : DaemonEvent) : Bool × EventStream :=
  if stream.isListening && stream.queue.length < stream.capacity then
    (true, { stream with queue := stream.queue ++ [event] })
  else (false, stream)

/-- Takes the oldest event. -/
def receive (stream : EventStream) : Option DaemonEvent × EventStream :=
  match stream.queue with
  | event :: rest => (some event, { stream with queue := rest })
  | [] => (none, stream)

def emptied (stream : EventStream) : EventStream :=
  { stream with queue := [] }

/-- The listener goes away. -/
def hangUp (stream : EventStream) : EventStream :=
  { stream with queue := [], isListening := false }

end EventStream

end ContainerBoard
