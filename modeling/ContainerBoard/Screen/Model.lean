import ContainerBoard.Screen.Body

/-!
# What a screen shows

All that is needed to draw the active screen once.
-/

namespace ContainerBoard

/-- All that is needed to draw a screen. -/
structure ScreenModel where
  view : View
  sort : SortMode
  body : Body
  /-- The latest status message. -/
  status : Option String := none
  deriving DecidableEq, Repr

/-- Gathers what the active screen shows. -/
def Dashboard.screen {ρ : Type} (b : Dashboard ρ) (status : Option String) :
    ScreenModel × Dashboard ρ :=
  let (body, b') := b.body
  ({ view := b.navigation.view, sort := b.navigation.sort, body, status }, b')

end ContainerBoard
