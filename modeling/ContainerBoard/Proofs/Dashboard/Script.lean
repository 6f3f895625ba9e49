import ContainerBoard.Proofs.Dashboard.Subscriber

/-!
# Operations step by step

An operation of a dashboard is a row of steps: lines for the log, messages for the
status line, requests to the daemon, changes of what is shown, and requests for a
redraw.  The script of an operation has its steps in their order, and following it
comes to what the operation does.

How a script goes on depends on what the daemon answers, and so does the script.
-/

namespace ContainerBoard.Dashboard

variable {ρ α : Type}

/-- A step of an operation or of the background work. -/
inductive Step : Type 1 where
  | log (lines : List LogLine)
  | say (message : String)
  | ask {α : Type} (request : Request α)
  | visit (view : View)
  | back
  | rotateSort
  /-- The daemon is told an order of the network list. -/
  | tellSort (mode : SortMode)
  | keep (change : Snapshots → Snapshots)
  | store (cache : Cache)
  | takeChannel
  | refresh
  /-- The daemon notices which handles are gone. -/
  | observe
  /-- An event of the daemon goes to the event log. -/
  | push (event : DaemonEvent)
  /-- The pipeline has its turn behind it. -/
  | rest (turn : Pipeline.Turn)
  | close
  /-- The end of the pipeline was waited for. -/
  | markJoined

namespace Step

def run [Refresh ρ] (b : Dashboard ρ) : Step → Dashboard ρ
  | log lines => b.log lines
  | say message => b.say message
  | ask request => (b.ask request).2
  | visit view => { b with navigation := b.navigation.visit view }
  | back => { b with navigation := b.navigation.back }
  | rotateSort => { b with navigation := b.navigation.rotateSort }
  | tellSort mode => { b with daemon := b.daemon.sortNetworks mode }
  | keep change => { b with snapshots := change b.snapshots }
  | store cache => { b with cache }
  | takeChannel => b.takeChannel.2
  | refresh => b.refresh
  | observe => b.observe
  | push event => { b with events := b.events.push event }
  | rest turn =>
    { b.log turn.log with
      pipeline := turn.pipeline
      daemon := b.daemon.atSubscription b.subscription fun s =>
        { s with
          stream :=
            if turn.pipeline.isStopped then s.stream.hangUp else s.stream.emptied } }
  | close => b.close
  | markJoined => { b with isJoined := true }

end Step

/-- Follows a script. -/
def follow [Refresh ρ] (b : Dashboard ρ) (script : List Step) : Dashboard ρ :=
  script.foldl Step.run b

/-! ## Scripts -/

def failureScript (action : String) (error : BoardError) : List Step :=
  [.log [{ level := .warn, message := "Failed " ++ action ++ ": " ++ error.message,
           transient := some error.cause.isTransient }],
   .say (error.userMessage action)]

def viewScript (view : View) : List Step :=
  [.log [.debug ("View mode -> " ++ view.debugName)], .visit view]

def showScript (view : View) : List Step :=
  viewScript view ++ [.refresh]

/-- Showing what is kept behind a screen. -/
def keepScript (change : Snapshots → Snapshots) (view : View) : List Step :=
  .keep change :: showScript view

def backScript (b : Dashboard ρ) : List Step :=
  [.back, .log [.debug ("View mode -> " ++ b.navigation.main.debugName ++ " (back)")],
   .refresh]

def sortScript (b : Dashboard ρ) : List Step :=
  let mode := b.navigation.sort.next
  [.rotateSort, .log [.debug ("Network sort -> " ++ mode.label)], .tellSort mode, .refresh]

/-- Asking the daemon, and going on with its answer. -/
def askScript (b : Dashboard ρ) (request : Request α)
    (next : Except DaemonError α → List Step) : List Step :=
  .ask request :: next (b.daemon.call request).1

/-- Fetching a detail and showing it. -/
def loadScript (b : Dashboard ρ) (detail : Detail)
    (onError : BoardError → List Step) : List Step :=
  askScript b detail.request fun answer =>
    match answer with
    | .ok data => keepScript (detail.store data) detail.view
    | .error error => onError (.daemon error)

def detailScript (b : Dashboard ρ) (detail : Detail) : List Step :=
  loadScript b detail (failureScript detail.action)

/-- Looking up the object in a row. -/
def findStep : ObjectRow → Step
  | .container position => .ask (.containerAt position)
  | .image position => .ask (.imageAt position)
  | .network position => .ask (.networkAt position)

/-- Going on with the object in a row, if it was found. -/
def foundScript (b : Dashboard ρ) (row : ObjectRow) (action : String)
    (next : String → Dashboard ρ → List Step) : List Step :=
  match row.objectId b.daemon with
  | (.ok id, d) => next id { b with daemon := d }
  | (.error error, _) => failureScript action error

/-- Doing something with the object in a row. -/
def rowScript (b : Dashboard ρ) (row : ObjectRow) (action : String)
    (next : String → Dashboard ρ → List Step) : List Step :=
  findStep row :: foundScript b row action next

def openRowScript (b : Dashboard ρ) (r : RowDetail) : List Step :=
  rowScript b r.row r.action fun id b => detailScript b (r.detail id)

/-- Reporting what became of an action.  It breaks off where the clock cannot tell how
long its result is kept. -/
def reportScript (b : Dashboard ρ) (m : Mutation) : Except DaemonError m.Answer → List Step
  | .error error => failureScript m.action (.daemon error)
  | .ok answer =>
    match b.keepResult m answer with
    | .error _ => []
    | .ok cache =>
      [.store cache, .log (m.successLog answer), .say (m.outcome answer), .refresh]

def performScript (b : Dashboard ρ) (m : Mutation) : List Step :=
  .say m.announcement :: askScript (b.say m.announcement) m.request (reportScript b m)

def performRowScript (b : Dashboard ρ) (r : RowMutation) : List Step :=
  rowScript b r.row r.action fun id b => performScript b (r.mutation id)

/-- Opening the row of a list that is fetched now. -/
def listedScript (b : Dashboard ρ) (request : Request (List α)) (row : Nat)
    (what : String) (next : α → List Step) : List Step :=
  askScript b request fun answer =>
    match answer with
    | .ok items =>
      match items[row]? with
      | some item => next item
      | none => []
    | .error error => [.say ((BoardError.daemon error).userMessage ("listing " ++ what))]

def serviceScript (id : String) : List Step :=
  keepScript (fun s => { s with service := some id }) .serviceTasks

def nodeScript (id : String) : List Step :=
  keepScript (fun s => { s with node := some id }) .nodeTasks

def openScript (b : Dashboard ρ) (view : View) (row : Nat) : List Step :=
  match view with
  | .images => openRowScript b (.image row)
  | .networks => openRowScript b (.network row)
  | .services => listedScript b .services row "services" fun s => serviceScript s.id
  | .nodes => listedScript b .nodes row "nodes" fun n => nodeScript n.id
  | _ => []

def removeScript (b : Dashboard ρ) (view : View) (row : Nat) : List Step :=
  match view with
  | .containers => performRowScript b (.removeContainer row)
  | .images => performRowScript b (.removeImage row false)
  | .networks => performRowScript b (.removeNetwork row)
  | _ => []

def hostScript (b : Dashboard ρ) : List Step :=
  loadScript b .host fun error =>
    [.log [.warn ("Host info unavailable: " ++ error.message)],
     .say (error.userMessage "retrieving host info")]

def commandScript (b : Dashboard ρ) (command : Command) (view : View) (row : Nat) :
    List Step :=
  match command with
  | .quit | .moveUp | .moveDown => []
  | .back => backScript b
  | .showContainers => showScript .containers
  | .showImages => showScript .images
  | .showNetworks => detailScript b .networks
  | .showNodes => showScript .nodes
  | .showServices => showScript .services
  | .showMonitor => showScript .monitor
  | .showEvents => showScript .events
  | .showInfo => hostScript b
  | .showDiskUsage => showScript .diskUsage
  | .showHelp => showScript .help
  | .openSelected => openScript b view row
  | .history => openRowScript b (.history row)
  | .kill => performRowScript b (.kill row)
  | .remove => removeScript b view row
  | .forceRemove => performRowScript b (.removeImage row true)
  | .removeAllStopped => performScript b .removeStopped
  | .removeDangling => performScript b .removeDangling
  | .prune => performScript b .prune
  | .sortNetworks => sortScript b

/-- Doing what a command says for the row under the cursor. -/
def dispatchScript (b : Dashboard ρ) (command : Command) (cursor : Cursor) : List Step :=
  let line := "Dispatching " ++ command.debugName ++ " on " ++
    b.navigation.view.debugName ++ " row " ++ cursor.selected.repr
  .log [.debug line] ::
    commandScript (b.log [.debug line]) command b.navigation.view cursor.selected

/-- Gathering what the screen shows. -/
def gatherScript (b : Dashboard ρ) : List Step :=
  match b.navigation.view with
  | .containers | .monitor => [.ask .containers]
  | .images => [.ask .images]
  | .networks =>
    askScript b .networks fun answer =>
      match answer with
      | .ok _ => []
      | .error error =>
        [.log [.debug ("Live network list failed, using snapshot: " ++
          (BoardError.daemon error).message)]]
  | .nodes => [.ask .nodes]
  | .services => [.ask .services]
  | .serviceTasks => (b.snapshots.service.map fun id => Step.ask (.serviceTasks id)).toList
  | .nodeTasks => (b.snapshots.node.map fun id => Step.ask (.nodeTasks id)).toList
  -- all others show what is there already
  | _ => []

def actionScript (b : Dashboard ρ) : Action → List Step
  | .setView view => viewScript view
  | .showView view => showScript view
  | .showMain => backScript b
  | .showServiceTasks id => serviceScript id
  | .showNodeTasks id => nodeScript id
  | .sortNetworks => sortScript b
  | .opening (.detail .host) => loadScript b .host fun _ => []
  | .opening (.detail detail) => detailScript b detail
  | .opening (.row r) => openRowScript b r
  | .change (.direct m) => performScript b m
  | .change (.row r) => performRowScript b r
  | .lookup lookup => [.ask lookup.request]
  | .find row => [findStep row]
  | .emit message => [.say message]
  | .takeChannel => [.takeChannel]
  | .dispatch command cursor => dispatchScript b command cursor
  | .gather _ => gatherScript b

/-- Handling an event.  Each one asks for a redraw of its own. -/
def eventScript (event : DaemonEvent) : List Step :=
  [.push event, .refresh]

/-- The turn of the background work. -/
def settleScript (b : Dashboard ρ) : List Step :=
  .observe ::
    if b.pipeline.isStopped then []
    else b.newEvents.flatMap eventScript ++ [.rest b.observe.turn]

def joinScript (b : Dashboard ρ) : List Step :=
  if b.isJoined then [] else settleScript b ++ [.markJoined]

/-! ## Following scripts -/

variable [Refresh ρ]

theorem follow_append (b : Dashboard ρ) (script later : List Step) :
    b.follow (script ++ later) = (b.follow script).follow later :=
  List.foldl_append

theorem follow_cons (b : Dashboard ρ) (step : Step) (script : List Step) :
    b.follow (step :: script) = (step.run b).follow script := rfl

theorem follow_askScript
    (b : Dashboard ρ) (request : Request α) (next : Except DaemonError α → List Step) :
    b.follow (askScript b request next) = (b.ask request).2.follow (next (b.ask request).1) :=
  rfl

/-- The script of loading goes on with its own failure steps. -/
theorem follow_loadScript
    (b : Dashboard ρ) (detail : Detail) (onError : BoardError → List Step) :
    b.follow (loadScript b detail onError) =
      match b.load detail with
      | (.ok (), b) => b
      | (.error error, b) => b.follow (onError error) := by
  rw [loadScript, follow_askScript]
  unfold load fetch
  rcases b.ask detail.request with ⟨error | data, b'⟩ <;> rfl

theorem follow_detailScript (b : Dashboard ρ) (detail : Detail) :
    b.follow (detailScript b detail) = b.openDetail detail := by
  rw [detailScript, follow_loadScript]
  unfold openDetail
  rcases b.load detail with ⟨error | ⟨⟩, b'⟩ <;> rfl

theorem follow_hostScript (b : Dashboard ρ) : b.follow (hostScript b) = b.showHost := by
  rw [hostScript, follow_loadScript]
  unfold showHost
  rcases b.load .host with ⟨error | ⟨⟩, b'⟩ <;> rfl

theorem run_findStep (b : Dashboard ρ) (row : ObjectRow) :
    (findStep row).run b = b.find row := by
  cases row <;> rfl

theorem follow_rowScript
    (b : Dashboard ρ) (row : ObjectRow) (action : String)
    {script : String → Dashboard ρ → List Step} {next : String → Dashboard ρ → Dashboard ρ}
    (hnext : ∀ id b, b.follow (script id b) = next id b) :
    b.follow (rowScript b row action script) = b.onRow row action next := by
  have hfind : (findStep row).run b = { b with daemon := (row.objectId b.daemon).2 } :=
    (b.run_findStep row).trans (b.find_eq row)
  rw [rowScript, follow_cons, hfind]
  unfold foundScript onRow
  rcases row.objectId b.daemon with ⟨error | id, d⟩
  · rfl
  · exact hnext id _

theorem follow_openRowScript (b : Dashboard ρ) (r : RowDetail) :
    b.follow (openRowScript b r) = b.openRow r := by
  rw [openRow_eq]
  exact b.follow_rowScript _ _ fun id b => b.follow_detailScript _

theorem follow_performScript (b : Dashboard ρ) (m : Mutation) :
    b.follow (performScript b m) = b.performNow m := by
  have hkept (d : Daemon) (answer : m.Answer) :
      { b.say m.announcement with daemon := d }.keepResult m answer =
        b.keepResult m answer :=
    keepResult_frame b d _ _ m answer
  rw [performScript, follow_cons]
  change (b.say m.announcement).follow (askScript (b.say m.announcement) m.request _) = _
  rw [follow_askScript]
  unfold performNow perform fetch ask reportScript
  rcases (b.say m.announcement).daemon.call m.request with ⟨error | answer, d⟩
  · rfl
  · simp only [Except.mapError, hkept]
    cases b.keepResult m answer <;> rfl

theorem follow_performRowScript (b : Dashboard ρ) (r : RowMutation) :
    b.follow (performRowScript b r) = b.performRow r := by
  rw [performRow_eq]
  exact b.follow_rowScript _ _ fun id b => b.follow_performScript _

theorem follow_listedScript
    (b : Dashboard ρ) (request : Request (List α)) (row : Nat) (what : String)
    {script : α → List Step} {next : α → Dashboard ρ → Dashboard ρ}
    (hnext : ∀ item b, b.follow (script item) = next item b) :
    b.follow (listedScript b request row what script) =
      openListed (b.fetch request) row what next := by
  rw [listedScript, follow_askScript]
  unfold openListed fetch
  rcases b.ask request with ⟨error | items, b'⟩
  · rfl
  · dsimp only [Except.mapError]
    cases items[row]? with
    | none => rfl
    | some item => exact hnext item b'

theorem follow_openScript (b : Dashboard ρ) (view : View) (row : Nat) :
    b.follow (openScript b view row) = b.openSelected view row := by
  cases view with
  | images => exact b.follow_openRowScript _
  | networks => exact b.follow_openRowScript _
  | services => exact b.follow_listedScript _ row "services" fun _ _ => rfl
  | nodes => exact b.follow_listedScript _ row "nodes" fun _ _ => rfl
  | _ => rfl

theorem follow_removeScript (b : Dashboard ρ) (view : View) (row : Nat) :
    b.follow (removeScript b view row) = b.removeSelected view row := by
  cases view with
  | containers => exact b.follow_performRowScript _
  | images => exact b.follow_performRowScript _
  | networks => exact b.follow_performRowScript _
  | _ => rfl

theorem follow_commandScript (b : Dashboard ρ) (command : Command) (view : View) (row : Nat) :
    b.follow (commandScript b command view row) = (b.execute command view row).2 := by
  cases command with
  | showNetworks => exact b.follow_detailScript _
  | showInfo => exact b.follow_hostScript
  | openSelected => exact b.follow_openScript view row
  | history => exact b.follow_openRowScript _
  | kill => exact b.follow_performRowScript _
  | remove => exact b.follow_removeScript view row
  | forceRemove => exact b.follow_performRowScript _
  | removeAllStopped => exact b.follow_performScript _
  | removeDangling => exact b.follow_performScript _
  | prune => exact b.follow_performScript _
  -- all others go to another screen, sort, or leave the dashboard alone
  | _ => rfl

theorem follow_dispatchScript (b : Dashboard ρ) (command : Command) (cursor : Cursor) :
    b.follow (dispatchScript b command cursor) = (b.dispatch command cursor).dashboard := by
  let line := "Dispatching " ++ command.debugName ++ " on " ++
    b.navigation.view.debugName ++ " row " ++ cursor.selected.repr
  change (b.log [.debug line]).follow
    (commandScript (b.log [.debug line]) command b.navigation.view cursor.selected) = _
  rw [follow_commandScript]
  unfold dispatch
  dsimp only
  split
  · rename_i hdone
    exact congrArg Prod.snd hdone
  · rename_i hdone
    split <;> exact congrArg Prod.snd hdone

theorem follow_gatherScript (b : Dashboard ρ) (status : Option String) :
    b.follow (gatherScript b) = (b.screen status).2 := by
  unfold gatherScript screen body
  cases b.navigation.view with
  | networks =>
      rw [follow_askScript]
      unfold networksBody fetch
      rcases b.ask .networks with ⟨error | ns, b'⟩ <;> rfl
  | serviceTasks => cases b.snapshots.service <;> rfl
  | nodeTasks => cases b.snapshots.node <;> rfl
  | _ => rfl

/-- Following the script of an operation comes to what the operation does. -/
theorem follow_actionScript (b : Dashboard ρ) (action : Action) :
    b.follow (actionScript b action) = b.act action := by
  cases action with
  | opening op =>
      cases op with
      | row r => exact b.follow_openRowScript r
      | detail detail =>
          cases detail with
          | host =>
              change b.follow (loadScript b .host fun _ => []) = (b.load .host).2
              rw [follow_loadScript]
              rcases b.load .host with ⟨error | ⟨⟩, b'⟩ <;> rfl
          | _ => exact b.follow_detailScript _
  | change op =>
      cases op with
      | direct m => exact b.follow_performScript m
      | row r => exact b.follow_performRowScript r
  | find row => exact b.run_findStep row
  | dispatch command cursor => exact b.follow_dispatchScript command cursor
  | gather status => exact b.follow_gatherScript status
  | _ => rfl

theorem follow_eventScripts (b : Dashboard ρ) (events : List DaemonEvent) :
    b.follow (events.flatMap eventScript) =
      { b with
        events := b.events.pushAll events
        redraws := refreshTimes events.length b.redraws } := by
  induction events generalizing b with
  | nil => rfl
  | cons event events ih => exact ih _

theorem follow_settleScript (b : Dashboard ρ) : b.follow (settleScript b) = b.settle := by
  unfold settleScript settle runPipeline
  rw [follow_cons]
  by_cases hstopped : b.pipeline.isStopped = true
  · rw [if_pos hstopped, if_pos hstopped]
    rfl
  · rw [if_neg hstopped, if_neg hstopped, follow_append, follow_eventScripts]
    rfl

theorem follow_joinScript (b : Dashboard ρ) : b.follow (joinScript b) = b.join.2 := by
  rw [join_eq, joinScript]
  by_cases hjoined : b.isJoined = true
  · rw [if_pos hjoined, if_pos hjoined]
    rfl
  · rw [if_neg hjoined, if_neg hjoined, follow_append, follow_settleScript]
    rfl

end ContainerBoard.Dashboard
