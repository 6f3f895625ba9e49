import ContainerBoard.Dashboard.Basic

/-!
# Changing the screen

The operations that only change what is shown.
-/

namespace ContainerBoard.Dashboard

variable {ρ : Type} [Refresh ρ]

/-- Activates a screen without a redraw. -/
def setView (b : Dashboard ρ) (view : View) : Dashboard ρ :=
  { b.log [.debug ("View mode -> " ++ view.debugName)] with
    navigation := b.navigation.visit view }

def showView (b : Dashboard ρ) (view : View) : Dashboard ρ :=
  (b.setView view).refresh

def showMain (b : Dashboard ρ) : Dashboard ρ :=
  let (view, navigation) := b.navigation.restore
  { b.log [.debug ("View mode -> " ++ view.debugName ++ " (back)")] with
    navigation }.refresh

def showServiceTasks (b : Dashboard ρ) (id : String) : Dashboard ρ :=
  { b with snapshots := { b.snapshots with service := some id } }.showView .serviceTasks

def showNodeTasks (b : Dashboard ρ) (id : String) : Dashboard ρ :=
  { b with snapshots := { b.snapshots with node := some id } }.showView .nodeTasks

def sortNetworks (b : Dashboard ρ) : Dashboard ρ :=
  let navigation := b.navigation.rotateSort
  { b.log [.debug ("Network sort -> " ++ navigation.sort.label)] with
    navigation
    daemon := b.daemon.sortNetworks navigation.sort }.refresh

end ContainerBoard.Dashboard
