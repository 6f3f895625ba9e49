import ContainerBoard.SortMode
import ContainerBoard.View

/-!
# Navigation

The active screen, the main screen that going back leads to, and the order
of the network list.
-/

namespace ContainerBoard

/-- Where the user is and how networks are sorted. -/
structure Navigation where
  view : View
  /-- The screen that going back leads to. -/
  main : View
  sort : SortMode
  /-- Going back leads to a main screen. -/
  main_isMain : main.isMain = true
  deriving DecidableEq

namespace Navigation

/-- Opens on a screen; one that is no main screen is replaced by the first. -/
def start (view : View) (sort : SortMode) : Navigation :=
  if h : view.isMain = true then ⟨view, view, sort, h⟩
  else ⟨.containers, .containers, sort, rfl⟩

instance : Inhabited Navigation := ⟨start default default⟩

/-- Activates a screen; a main screen becomes the one to go back to. -/
def visit (nav : Navigation) (view : View) : Navigation :=
  if h : view.isMain = true then ⟨view, view, nav.sort, h⟩
  else { nav with view }

def back (nav : Navigation) : Navigation :=
  { nav with view := nav.main }

/-- Goes back to the last main screen; says which one that is. -/
def restore (nav : Navigation) : View × Navigation :=
  (nav.back.view, nav.back)

def setSort (nav : Navigation) (sort : SortMode) : Navigation :=
  { nav with sort }

def rotateSort (nav : Navigation) : Navigation :=
  nav.setSort nav.sort.next

end Navigation

end ContainerBoard
