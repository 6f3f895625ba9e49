/-!
# Log lines
-/

namespace ContainerBoard

/-- How important a log line is. -/
inductive Level where
  | trace
  | debug
  | info
  | warn
  | error
  deriving DecidableEq, Repr

/-- The level's name in the log. -/
def Level.label : Level → String
  | trace => "TRACE"
  | debug => "DEBUG"
  | info => "INFO"
  | warn => "WARN"
  | error => "ERROR"

/-- A line of the log. -/
structure LogLine where
  level : Level
  message : String
  /-- Of a failure: whether it may go away by itself. -/
  transient : Option Bool := none
  deriving DecidableEq, Repr

/-- The log of a run, last line first. -/
abbrev Journal := List LogLine

namespace LogLine

/-- A line for following every step. -/
def trace (message : String) : LogLine := { level := .trace, message }

/-- A line for finding mistakes. -/
def debug (message : String) : LogLine := { level := .debug, message }

/-- A line for the operator. -/
def info (message : String) : LogLine := { level := .info, message }

/-- A line about something that goes wrong. -/
def warn (message : String) : LogLine := { level := .warn, message }

/-- The line as it stands in a file. -/
def text (line : LogLine) : String :=
  line.level.label ++ " " ++ line.message ++
    match line.transient with
    | some true => " transient=true"
    | some false => " transient=false"
    | none => ""

end LogLine

end ContainerBoard
