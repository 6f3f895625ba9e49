import ContainerBoard.DaemonError

/-!
# Errors of the dashboard

An operation of the dashboard fails because the daemon refuses a request.
Where the request was to find the object in a row, the error says which row.
-/

namespace ContainerBoard

/-- Why an operation of the dashboard fails. -/
inductive BoardError where
  /-- The object in a row could not be found. -/
  | resolution (kind : Resource) (position : Nat) (cause : DaemonError)
  /-- A request failed. -/
  | daemon (cause : DaemonError)
  deriving DecidableEq, Repr

namespace BoardError

/-- The error of the daemon behind it. -/
def cause : BoardError → DaemonError
  | resolution _ _ cause => cause
  | daemon cause => cause

def message : BoardError → String
  | resolution kind position cause =>
    "could not resolve " ++ kind.word ++ " at position " ++ position.repr ++ ": " ++
      cause.message
  | daemon cause => cause.message

/-- What the status line says when an action fails. -/
def userMessage (error : BoardError) (action : String) : String :=
  "Error " ++ action ++ ": " ++ error.message

end BoardError

end ContainerBoard
