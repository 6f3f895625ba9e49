import ContainerBoard.Config
import ContainerBoard.Text.Column

/-!
# The command line

Arguments that ask for the version or for help are answered before the
terminal is taken over.
-/

namespace ContainerBoard.CommandLine

/-- What the arguments ask for. -/
inductive Action where
  | version
  | help
  | run
  deriving DecidableEq, Repr

/-- What one argument asks for. -/
def actionOf? (argument : String) : Option Action :=
  if argument = "--version" || argument = "-V" then some .version
  else if argument = "--help" || argument = "-h" then some .help
  else none

/-- What the arguments ask for; the first one that asks for anything
counts. -/
def parse (arguments : List String) : Action :=
  (arguments.findSome? actionOf?).getD .run

def versionText : String := "dockdeck 0.1.0"

def variableLine (name description : String) : String :=
  "  " ++ Text.padRight 28 name ++ " " ++ description

def helpText : String :=
  String.intercalate "\n"
    ["Terminal dashboard for a container daemon",
     "",
     "Usage: dockdeck [OPTIONS]",
     "",
     "Options:",
     "  -h, --help       Print help",
     "  -V, --version    Print version",
     "",
     "Environment:",
     variableLine Config.logVariable "Log filter (default: info)",
     variableLine Config.reportTtlVariable
       "Seconds a prune report stays cached (default: 30)",
     variableLine Config.cleanupVariable "Seconds between cache cleanups (default: 30)",
     variableLine Config.outboxVariable "Undelivered status messages kept (default: 0)",
     "",
     "Press ? inside the dashboard for key bindings."]

/-- What is printed instead of running the dashboard. -/
def Action.output : Action → Option String
  | version => some versionText
  | help => some helpText
  | run => none

end ContainerBoard.CommandLine
