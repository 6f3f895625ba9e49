/-!
# The terminal

The dashboard takes over the whole terminal and gives it back at the end.
-/

namespace ContainerBoard.Terminal

/-- Begins a control sequence. -/
def escape : String := "\x1b["

/-- Switches to a screen of the program's own and hides the cursor. -/
def enter : String :=
  escape ++ "?1049h" ++ escape ++ "?25l"

/-- Switches back to the terminal's screen and shows the cursor. -/
def leave : String :=
  escape ++ "?1049l" ++ escape ++ "?25h"

end ContainerBoard.Terminal
