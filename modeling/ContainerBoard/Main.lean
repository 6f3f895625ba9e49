import ContainerBoard.CommandLine
import ContainerBoard.Daemon.Sample
import ContainerBoard.Input.Sequence
import ContainerBoard.Log.Filter
import ContainerBoard.Log.Place
import ContainerBoard.Screen.Paint
import ContainerBoard.Session

/-!
# The program

Runs a session over the sample daemon.  The screen is drawn again whenever a
key, an event or a message changed something, and the log is written to its
file.  Keys are read from standard input as they come; a terminal that is to
hand them over one by one has to be in raw mode.
-/

/-- Bytes that are being read. -/
abbrev PendingBytes := Task (Except IO.Error ByteArray)

namespace ContainerBoard.Program

/-- How long to wait for keys before the clock is looked at again, in
milliseconds. -/
def pause : UInt32 := 50

/-- A number of the environment, or a default. -/
def dimension (name : String) (default : Nat) : IO Nat := do
  return ((← IO.getEnv name).bind fun raw => unsigned64? raw.toList).getD default

def configuration : IO (Config × List LogLine) := do
  let names := [Config.reportTtlVariable, Config.cleanupVariable, Config.outboxVariable,
    Config.logVariable]
  let values ← names.mapM fun name => IO.getEnv name
  let environment : Config.Environment := fun name => ((names.zip values).lookup name).join
  return (.ofEnvironment environment, Config.environmentLog environment)

def openLog (path : String) : IO IO.FS.Handle := do
  let directory := String.intercalate "/" (path.splitOn "/").dropLast
  if !directory.isEmpty then IO.FS.createDirAll directory
  IO.FS.Handle.mk path .append

/-- Where the log goes, and which lines of it. -/
structure Log where
  file : IO.FS.Handle
  filter : String

/-- Writes lines to the log file, oldest first. -/
def Log.write (log : Log) (lines : List LogLine) : IO Unit := do
  for line in lines do
    if LogFilter.admits log.filter line.level then log.file.putStrLn line.text
  log.file.flush

/-- Writes the lines that the journal has gained since. -/
def Log.follow (log : Log) (before after : Journal) : IO Unit :=
  log.write (after.take (after.length - before.length)).reverse

/-- Puts the session on the terminal. -/
def draw (output : IO.FS.Stream) (s : Session) : IO Session := do
  let (model, s) := s.screen
  let s := s.track model
  let rows := model.draw (← dimension "COLUMNS" 80) (← dimension "LINES" 24) s.cursor
  output.putStr (Terminal.paint rows)
  output.flush
  return s

def pressAll (s : Session) : List KeyEvent → IO (Bool × Session)
  | [] => return (false, s)
  | key :: rest => do
    let (pressed, s) := s.press .defaults key
    let s := s.settle
    match pressed with
    | some (_, .ok true) => return (true, s)
    | some (_, .error overflow) => throw (IO.userError overflow.message)
    | _ => pressAll s rest

/-- The bytes that have arrived, whether the input has ended, and the read
that is under way. -/
partial def arrived (read : IO PendingBytes) (input : PendingBytes) (bytes : ByteArray) :
    IO (ByteArray × Bool × PendingBytes) := do
  if !(← IO.hasFinished input) then return (bytes, false, input)
  let more ← IO.ofExcept input.get
  if more.isEmpty then return (bytes, true, input)
  let input ← read
  IO.sleep 1
  arrived read input (bytes ++ more)

/-- Whether two sessions look the same on the terminal. -/
def looksLike (s t : Session) : Bool :=
  s.board.redraws.count = t.board.redraws.count && s.status = t.status && s.cursor = t.cursor

/-- Waits for keys and lets time pass until the session is ended. -/
partial def loop (output : IO.FS.Stream) (log : Log) (read : IO PendingBytes)
    (input : PendingBytes) (time : Nat) (s : Session) : IO Session := do
  IO.sleep pause
  let now ← IO.monoMsNow
  let (bytes, hasEnded, input) ← arrived read input .empty
  let keys := KeyEvent.ofChars ((String.fromUTF8? bytes).getD "").toList
  let (isOver, next) ← pressAll (s.pass (now - time)) keys
  log.follow s.board.journal next.board.journal
  if isOver || hasEnded then return next
  let next ← if looksLike s next then pure next else draw output next
  loop output log read input now next

def run : IO Unit := do
  let (config, warnings) ← configuration
  let path := config.logFile.getD
    (LogPlace.defaultPath (← IO.getEnv "HOME") (← IO.getEnv "XDG_CACHE_HOME") none)
  let log : Log := { file := ← openLog path, filter := config.logFilter }
  log.write warnings
  match Session.start Sample.daemon config .parked with
  | .error error => throw (IO.userError error.message)
  | .ok s =>
    let s := (s.startDemo config.demoInterval).settle
    log.follow [] s.board.journal
    let input ← IO.getStdin
    let output ← IO.getStdout
    let read := IO.asTask (input.read 1) .dedicated
    output.putStr Terminal.enter
    try
      let s ← draw output s
      let s ← loop output log read (← read) (← IO.monoMsNow) s
      let closed := { s with board := s.board.close }.settle
      log.follow s.board.journal closed.board.journal
    finally
      output.putStr Terminal.leave
      output.flush

end ContainerBoard.Program

open ContainerBoard in
/-- Answers the arguments or runs the dashboard. -/
def main (arguments : List String) : IO Unit := do
  match (CommandLine.parse arguments).output with
  | some text => IO.println text
  | none => Program.run
