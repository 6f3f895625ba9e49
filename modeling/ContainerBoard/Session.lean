import ContainerBoard.Dashboard.Lifecycle
import ContainerBoard.Input.Dispatch
import ContainerBoard.Screen.Draw

/-!
# Sessions

A session is a dashboard in use: with the consumer of its outbox, whose last
message is the status line, with the cursor, and with the clock on which
demo events happen.  All background work is done between steps.
-/

namespace ContainerBoard

/-- Who reads the outbox. -/
inductive Consumer where
  /-- After each step all that is in the backlog is taken. -/
  | drain
  /-- Someone waits for messages all the time. -/
  | parked
  /-- Nobody does, if not asked to. -/
  | absent
  deriving DecidableEq, Repr

/-- Events that happen by themselves. -/
structure Demo where
  ticker : Ticker
  /-- The number of events so far. -/
  count : Nat := 0
  deriving DecidableEq, Repr

namespace Demo

/-- The kinds of events and what happens; they come in turn. -/
def scenes : List (String × String) :=
  [("container", "exec_start"), ("container", "health_status"), ("network", "connect"),
   ("image", "pull")]

/-- The events are at least so many milliseconds apart. -/
def shortestInterval : Nat := 10

/-- How many events may happen before other work has its turn. -/
def burst : Nat := 128

/-- The next event, about an object. -/
def event (demo : Demo) (actor : String) : DaemonEvent :=
  let scene := scenes.getD (demo.count % scenes.length) ("", "")
  { kind := scene.1, action := scene.2, actor, time := .epoch }

end Demo

/-- The redraws that a session counts. -/
abbrev Board := Dashboard RedrawCount

/-- A dashboard in use. -/
structure Session where
  board : Board
  /-- Whether the dashboard is gone. -/
  isDropped : Bool := false
  consumer : Consumer := .drain
  /-- Whether the waiting consumer was told that no message will come. -/
  hasEnded : Bool := false
  /-- The messages that the consumer read, last one first. -/
  received : List String := []
  status : Option String := none
  cursor : Cursor := {}
  demo : Option Demo := none

namespace Session

/-- Opens a session; its consumer gets the channel of the dashboard. -/
def start (daemon : Daemon) (config : Config) (consumer : Consumer) :
    Except BoardError Session :=
  match Dashboard.start daemon ({} : RedrawCount) config with
  | .ok board => .ok { board := board.takeChannel.2, consumer }
  | .error (error, _) => .error error

/-- The consumer reads a message. -/
def hear (s : Session) (message : String) : Session :=
  { s with received := message :: s.received, status := some message }

/-- The waiting consumer reads what there is and waits again. -/
def runParked (s : Session) : (fuel : Nat) → Session
  | 0 => s
  | fuel + 1 =>
    if s.hasEnded then s
    else
      match s.board.outbox.poll with
      | (.pending, outbox) => { s with board := { s.board with outbox } }
      | (.ready (some message), outbox) =>
        runParked ({ s with board := { s.board with outbox } }.hear message) fuel
      | (.ready none, outbox) =>
        { s with
          board := { s.board with outbox }
          hasEnded := true
          received := "<outbox ended>" :: s.received }

/-- The consumer takes all that is in the backlog, unless a receive is
pending. -/
def takeBacklog (s : Session) : List String × Session :=
  if s.board.outbox.receive.isSome then ([], s)
  else
    let (messages, outbox) := s.board.outbox.drain
    (messages, { s with board := { s.board with outbox } })

def runConsumer (s : Session) : Session :=
  match s.consumer with
  | .absent => s
  | .parked => s.runParked (s.board.outbox.backlog.length + 3)
  | .drain =>
    let (messages, s) := s.takeBacklog
    messages.foldl hear s

/-- One demo event happens to the first container. -/
def demoTick (s : Session) (demo : Demo) : Session :=
  let (answer, board) := s.board.ask .containers
  let actor :=
    match answer with
    | .ok (c :: _) => c.id
    | _ => ""
  let (accepted, daemon) := board.daemon.inject (demo.event actor)
  let board := { board with daemon }
  let board :=
    if accepted then board else board.log [.trace "Demo event dropped: no subscriber"]
  { s with
    board
    demo := some { demo with ticker := demo.ticker.skip 1, count := demo.count + 1 } }

/-- The demo events that are due happen; after many of them the pipeline has
its turn. -/
def runDemo (s : Session) : (fuel : Nat) → (sinceTurn : Nat) → Session
  | 0, _ => s
  | fuel + 1, sinceTurn =>
    match s.demo with
    | none => s
    | some demo =>
      if s.board.clock < demo.ticker.next then s
      else if sinceTurn = Demo.burst then
        runDemo ({ s with board := s.board.settle }.demoTick demo) fuel 1
      else runDemo (s.demoTick demo) fuel (sinceTurn + 1)

/-- The number of demo events that are due. -/
def demoDue (s : Session) : Nat :=
  match s.demo with
  | some demo => demo.ticker.due s.board.clock
  | none => 0

/-- Gives the daemon and the pipeline, then the consumer their turns. -/
def settle (s : Session) : Session :=
  { s with board := s.board.settle }.runConsumer

/-- Does what the clock makes due, then all other work. -/
def settleClock (s : Session) : Session :=
  let s := { s with board := s.board.runJanitor }
  (s.runDemo (s.demoDue + 1) 0).settle

def setClock (s : Session) (clock : Nat) : Session :=
  { s with board := { s.board with clock } }

/-- The time at which something is due next. -/
def nextTick? (s : Session) : Option Nat :=
  (s.board.janitor.nextTick?.toList ++
    (s.demo.map fun demo => demo.ticker.next).toList).min?

/-- The clock jumps. -/
def advance (s : Session) (time : Nat) : Session :=
  (s.setClock (s.board.clock + time)).settleClock

/-- The clock passes from one thing that is due to the next.  These are at
least a millisecond apart, which bounds their number. -/
def passTo (target : Nat) : (fuel : Nat) → Session → Session
  | 0, s => (s.setClock target).settleClock
  | fuel + 1, s =>
    match s.nextTick? with
    | none => (s.setClock target).settleClock
    | some tick =>
      if tick ≤ target then passTo target fuel (s.setClock tick).settleClock
      else (s.setClock target).settleClock

/-- The clock passes. -/
def pass (s : Session) (time : Nat) : Session :=
  passTo (s.board.clock + time) (time + 1) s

/-- How long the end of the pipeline is waited for. -/
def patience : Nat := 1000

def join (s : Session) : Joined × Session :=
  match s.board.join with
  | (.already, _) => (.already, s)
  | (.timeout, board) => (.timeout, ({ s with board }.runConsumer).pass patience)
  | (joined, board) => (joined, { s with board }.runConsumer)

/-- The dashboard goes away; says whether it was there. -/
def drop (s : Session) : Bool × Session :=
  if s.isDropped then (false, s)
  else (true, { s with board := s.board.drop, isDropped := true })

def startDemo (s : Session) (interval : Nat) : Session :=
  { s with
    demo := (Ticker.start? s.board.clock (max interval Demo.shortestInterval)).map
      fun ticker => { ticker } }

def stopDemo (s : Session) : Session :=
  { s with demo := none }

def screen (s : Session) : ScreenModel × Session :=
  let (model, board) := s.board.screen s.status
  (model, { s with board })

/-- Tells the cursor how many rows the screen has. -/
def track (s : Session) (model : ScreenModel) : Session :=
  { s with cursor := s.cursor.setRows model.body.rows }

/-- Does what a command says; tells whether the program is to end. -/
def dispatch (s : Session) (command : Command) : Except ClockOverflow Bool × Session :=
  let done := s.board.dispatch command s.cursor
  (done.result, { s with board := done.dashboard, cursor := done.cursor })

/-- Does what a key says on the screen as it is now. -/
def press (s : Session) (bindings : Bindings) (key : KeyEvent) :
    Option (Command × Except ClockOverflow Bool) × Session :=
  let (model, s) := s.screen
  let s := s.track model
  match bindings.commandFor key s.board.navigation.view with
  | none => (none, s)
  | some command =>
    let (result, s) := s.dispatch command
    (some (command, result), s)

end Session

end ContainerBoard
