import ContainerBoard.Record.Layout

/-!
# Events

The record of something that happened to an object of the daemon.
-/

namespace ContainerBoard

/-- Something that happened to an object of the daemon. -/
structure DaemonEvent where
  kind : String
  action : String
  actor : String
  time : Timestamp
  deriving DecidableEq, Inhabited

def DaemonEvent.layout : Layout DaemonEvent where
  name := "DaemonEvent"
  Parts := String × String × String × Timestamp × Unit
  fields :=
    .cons (.needed "Type" .string) <|
    .cons (.needed "Action" .string) <|
    .cons (.needed "ActorID" .string) <|
    .cons (.needed "Time" .time) .nil
  toParts e := (e.kind, e.action, e.actor, e.time, ())
  ofParts p :=
    let (kind, action, actor, time, ()) := p
    { kind, action, actor, time }

end ContainerBoard
