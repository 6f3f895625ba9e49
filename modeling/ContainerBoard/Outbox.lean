import ContainerBoard.LogLine

/-!
# The outbox

The outbox carries messages for the status line to one consumer.  Producers
never wait: a message is handed to a consumer that is waiting for one, or
else kept in the backlog while there is room, or else dropped.  With no room
at all the outbox is a rendezvous.

A receive that has begun stays pending until a message is handed to it or
the outbox is closed.  A consumer may abandon a pending receive; a message
that was handed over by then goes back to the front of the backlog.
-/

namespace ContainerBoard

/-- What became of a message. -/
inductive EmitOutcome where
  /-- It was handed to the waiting consumer. -/
  | delivered
  /-- It is kept in the backlog. -/
  | queued
  /-- It is lost. -/
  | dropped
  deriving DecidableEq, Repr

/-- A receive that has begun and not yet returned. -/
inductive Receive where
  /-- Nothing was handed over yet. -/
  | waiting
  /-- A message was handed over and not yet returned. -/
  | holding (message : String)
  deriving DecidableEq, Repr

/-- What a poll of a receive gives. -/
inductive Poll where
  | pending
  /-- The next message, or nothing when there will be none. -/
  | ready (message : Option String)
  deriving DecidableEq, Repr

/-- Messages on their way to the consumer. -/
structure Outbox where
  /-- How many messages the backlog has room for. -/
  capacity : Nat
  /-- The messages kept, oldest first. -/
  backlog : List String := []
  isClosed : Bool := false
  /-- Whether a receive is registered for the next message. -/
  hasWaiter : Bool := false
  /-- The receive that has begun, if any. -/
  receive : Option Receive := none
  /-- Whether there is still a consumer. -/
  hasReceiver : Bool := true
  deriving DecidableEq, Repr

namespace Outbox

def ofCapacity (capacity : Nat) : Outbox :=
  { capacity }

/-- Keeps a message if there is room for it. -/
def keep (box : Outbox) (message : String) : EmitOutcome × Outbox :=
  if box.backlog.length < box.capacity then
    (.queued, { box with backlog := box.backlog ++ [message] })
  else (.dropped, box)

/-- Offers a message to the consumer. -/
def emit (box : Outbox) (message : String) : EmitOutcome × Outbox :=
  if box.isClosed then (.dropped, box)
  else if box.hasWaiter then
    match box.receive with
    | some .waiting =>
      (.delivered, { box with hasWaiter := false, receive := some (.holding message) })
    | _ => { box with hasWaiter := false }.keep message
  else box.keep message

/-- Stops accepting messages. -/
def close (box : Outbox) : Outbox :=
  { box with isClosed := true, hasWaiter := false }

/-- Takes the next message from the backlog, or registers a receive for one
to come, or finds that none will come. -/
def startReceive (box : Outbox) : Poll × Outbox :=
  match box.backlog with
  | message :: rest =>
    (.ready (some message), { box with backlog := rest, hasWaiter := false, receive := none })
  | [] =>
    if box.isClosed then (.ready none, { box with hasWaiter := false, receive := none })
    else (.pending, { box with hasWaiter := true, receive := some .waiting })

/-- Polls the pending receive, or begins one. -/
def poll (box : Outbox) : Poll × Outbox :=
  match box.receive with
  | some (.holding message) =>
    (.ready (some message), { box with hasWaiter := false, receive := none })
  | some .waiting => if box.hasWaiter then (.pending, box) else box.startReceive
  | none => box.startReceive

/-- Gives up the pending receive. -/
def abandon (box : Outbox) : Outbox :=
  match box.receive with
  | some (.holding message) =>
    { box with backlog := message :: box.backlog, hasWaiter := false, receive := none }
  | some .waiting => { box with hasWaiter := false, receive := none }
  | none => box

/-- Takes a message from the backlog without waiting. -/
def tryReceive (box : Outbox) : Option String × Outbox :=
  match box.backlog with
  | message :: rest => (some message, { box with backlog := rest })
  | [] => (none, box)

/-- The consumer goes away, and no message is kept from now on. -/
def dropReceiver (box : Outbox) : Outbox :=
  { box.abandon with backlog := [], capacity := 0, hasWaiter := false, hasReceiver := false }

/-- Takes all messages from the backlog. -/
def drain (box : Outbox) : List String × Outbox :=
  (box.backlog, { box with backlog := [] })

/-- What the log says about offering a message. -/
def emitLog (box : Outbox) (message : String) : List LogLine :=
  match (box.emit message).1 with
  | .dropped =>
    if box.isClosed then [.trace ("Outbox closed, dropping message: " ++ message)]
    else [.trace ("No consumer ready, dropping message: " ++ message)]
  | _ => []

/-- What the log says about giving up the pending receive. -/
def abandonLog (box : Outbox) : List LogLine :=
  match box.receive with
  | some (.holding message) =>
    [.trace ("Requeueing message from abandoned receive: " ++ message)]
  | _ => []

end Outbox

end ContainerBoard
