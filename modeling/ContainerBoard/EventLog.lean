import ContainerBoard.Record.Event

/-!
# The event log

The newest events of the daemon, up to a fixed number.
-/

namespace ContainerBoard

/-- The newest events. -/
structure EventLog where
  /-- How many events are kept. -/
  capacity : Nat := 50
  /-- The events, newest first. -/
  recent : List DaemonEvent := []
  /-- No more events are kept than there is room for. -/
  length_recent_le : recent.length ≤ capacity := by simp

namespace EventLog

instance : Inhabited EventLog := ⟨{}⟩

def ofCapacity (capacity : Nat) : EventLog :=
  { capacity, length_recent_le := Nat.zero_le _ }

/-- Adds an event; the oldest one makes room. -/
def push (log : EventLog) (event : DaemonEvent) : EventLog where
  capacity := log.capacity
  recent := (event :: log.recent).take log.capacity
  length_recent_le := by simp only [List.length_take]; omega

/-- Adds events, oldest first. -/
def pushAll (log : EventLog) (events : List DaemonEvent) : EventLog :=
  events.foldl push log

def size (log : EventLog) : Nat :=
  log.recent.length

end EventLog

end ContainerBoard
