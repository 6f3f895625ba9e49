import ContainerBoard.Resource

/-!
# Errors of the daemon

Why a request to the daemon fails.
-/

namespace ContainerBoard

/-- Why a request to the daemon fails. -/
inductive DaemonError where
  /-- The list of the kind has no such row. -/
  | positionOutOfRange (kind : Resource) (position : Nat)
  /-- No object of the kind has the id. -/
  | notFound (kind : Resource) (id : String)
  | unavailable (reason : String)
  | refused (reason : String)
  | timeout (operation : String)
  /-- No stream of events can be opened. -/
  | subscription (reason : String)
  deriving DecidableEq, Repr

namespace DaemonError

def message : DaemonError → String
  | positionOutOfRange kind position =>
    "there is no " ++ kind.word ++ " at position " ++ position.repr
  | notFound kind id => "no such " ++ kind.word ++ ": " ++ id
  | unavailable reason => "daemon unavailable: " ++ reason
  | refused reason => reason
  | timeout operation => operation ++ " timed out"
  | subscription reason => "could not subscribe to daemon events: " ++ reason

/-- Whether the same request may succeed later. -/
def isTransient : DaemonError → Bool
  | unavailable _ => true
  | timeout _ => true
  | subscription _ => true
  | _ => false

end DaemonError

end ContainerBoard
