/-!
# Cancellation

A subscription is ended by its handle: the holder cancels it, or drops it.
Whoever watches the handle is released by either.
-/

namespace ContainerBoard

/-- The state of a handle. -/
inductive CancelSignal where
  | live
  | cancelled
  /-- The handle was dropped without being used. -/
  | abandoned
  deriving DecidableEq, Repr

namespace CancelSignal

/-- Whether watchers are released. -/
def isRaised : CancelSignal → Bool
  | live => false
  | _ => true

/-- The holder uses the handle; says whether there was one. -/
def cancel : CancelSignal → Bool × CancelSignal
  | live => (true, cancelled)
  | signal => (false, signal)

/-- The holder drops the handle; says whether there was one. -/
def abandon : CancelSignal → Bool × CancelSignal
  | live => (true, abandoned)
  | signal => (false, signal)

end CancelSignal

end ContainerBoard
