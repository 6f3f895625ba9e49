import ContainerBoard.LogLine
import ContainerBoard.Number.Unsigned
import ContainerBoard.SortMode
import ContainerBoard.Text.Blank
import ContainerBoard.Text.Quoted

/-!
# Configuration

The settings of a dashboard, with their defaults, and the variables of the
environment that override some of them.  Durations are milliseconds.
-/

namespace ContainerBoard

/-- The settings of a dashboard. -/
structure Config where
  /-- How long the report of a prune can be read. -/
  reportTtl : Nat := 30000
  cleanupInterval : Nat := 30000
  /-- How many status messages are kept for the consumer. -/
  outboxCapacity : Nat := 0
  initialSort : SortMode := default
  logFilter : String := "info"
  /-- The log file, if it is not the default one. -/
  logFile : Option String := none
  /-- The distance of the events of the demo. -/
  demoInterval : Nat := 5000
  deriving DecidableEq, Repr

namespace Config

instance : Inhabited Config := ⟨{}⟩

def reportTtlVariable : String := "DOCKDECK_PRUNE_TTL_SECS"

def cleanupVariable : String := "DOCKDECK_CACHE_CLEANUP_SECS"

def outboxVariable : String := "DOCKDECK_OUTBOX_CAPACITY"

def logVariable : String := "DOCKDECK_LOG"

/-- The value of a variable, if any. -/
abbrev Environment := String → Option String

/-- What a numeric variable says. -/
inductive Setting where
  | unset
  | value (n : Nat)
  /-- The variable is set to something else than a number. -/
  | invalid (raw : String)
  deriving DecidableEq, Repr

/-- Reads a numeric variable.  Blanks around the number are ignored. -/
def setting (env : Environment) (name : String) : Setting :=
  match env name with
  | none => .unset
  | some raw =>
    match unsigned64? (Text.trim raw.toList) with
    | some n => .value n
    | none => .invalid raw

/-- The number that a variable gives, or the default. -/
def Setting.getD : Setting → Nat → Nat
  | value n, _ => n
  | _, default => default

def Setting.warnings (name : String) : Setting → List LogLine
  | invalid raw => [.warn ("Ignoring invalid " ++ name ++ "=" ++ Text.quoted raw)]
  | _ => []

/-- The setting without a number that is not positive. -/
def Setting.positive : Setting → Setting
  | value 0 => unset
  | s => s

/-- The warning about a number that is not positive. -/
def Setting.positiveWarnings (name : String) : Setting → List LogLine
  | value 0 => [.warn (name ++ " must be positive, using default")]
  | _ => []

/-- The filter that the environment asks for, unless it is blank. -/
def filterSetting (env : Environment) : Option String :=
  (env logVariable).filter fun raw => !Text.isAllBlank raw.toList

/-- The defaults overridden by the environment. -/
def ofEnvironment (env : Environment) : Config :=
  let defaults : Config := {}
  { defaults with
    reportTtl :=
      match setting env reportTtlVariable with
      | .value seconds => 1000 * seconds
      | _ => defaults.reportTtl
    cleanupInterval :=
      match (setting env cleanupVariable).positive with
      | .value seconds => 1000 * seconds
      | _ => defaults.cleanupInterval
    outboxCapacity := (setting env outboxVariable).getD defaults.outboxCapacity
    logFilter := (filterSetting env).getD defaults.logFilter }

def environmentLog (env : Environment) : List LogLine :=
  (setting env reportTtlVariable).warnings reportTtlVariable ++
  (setting env cleanupVariable).warnings cleanupVariable ++
  (setting env cleanupVariable).positiveWarnings cleanupVariable ++
  (setting env outboxVariable).warnings outboxVariable

end Config

end ContainerBoard
