import ContainerBoard.Screen.Line

/-!
# The colours of the dashboard
-/

namespace ContainerBoard.Theme

/-- The border of the body. -/
def border : Color := .darkGray

/-- The text of the header. -/
def header : Color := .white

/-- What matters less in the header. -/
def dim : Color := .darkGray

/-- Behind the selected row. -/
def selection : Color := .rgb 30 40 60

/-- Progress and success on the status line. -/
def status : Color := .rgb 4 181 117

/-- Failures on the status line. -/
def error : Color := .red

/-- Running containers. -/
def running : Color := .lightGreen

/-- Stopped containers and images without a tag. -/
def stopped : Color := .gray

end ContainerBoard.Theme
