/-!
# Redraws

Whatever changes what the screen shows asks for a redraw.  How the request
is kept differs: counted, or held as one signal until the renderer takes it.
-/

namespace ContainerBoard

/-- States that can be asked for a redraw. -/
class Refresh (ρ : Type) where
  refresh : ρ → ρ

/-- Counts the redraws asked for. -/
structure RedrawCount where
  count : Nat := 0
  deriving DecidableEq, Repr, Inhabited

instance : Refresh RedrawCount where
  refresh counter := ⟨counter.count + 1⟩

/-- Holds at most one signal for the renderer. -/
structure RedrawSignal where
  /-- Whether a redraw is pending. -/
  isPending : Bool := false
  /-- Whether the renderer still listens. -/
  isListening : Bool := true
  deriving DecidableEq, Repr, Inhabited

instance : Refresh RedrawSignal where
  refresh signal := { signal with isPending := signal.isPending || signal.isListening }

namespace RedrawSignal

/-- The renderer takes the signal; says whether there was one, or nothing if
the renderer is gone. -/
def take (signal : RedrawSignal) : Option Bool × RedrawSignal :=
  if signal.isListening then (some signal.isPending, { signal with isPending := false })
  else (none, signal)

/-- The renderer goes away. -/
def dropReceiver (signal : RedrawSignal) : RedrawSignal :=
  { signal with isPending := false, isListening := false }

end RedrawSignal

end ContainerBoard
