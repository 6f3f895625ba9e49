import ContainerBoard.Input.Dispatch
import ContainerBoard.Proofs.Dashboard.Opening
import ContainerBoard.Proofs.Dashboard.Reporting
import ContainerBoard.Screen.Rows

/-!
# What a command does with the object in a row

Five screens list objects to select from.  A command on the selected row looks
for the object first: containers, images and networks by their position, services
and nodes in a list that is fetched again.  Then it passes the id to the daemon,
or keeps it as the one whose tasks are listed.
-/

namespace ContainerBoard

/-- A screen with a list of objects to select from. -/
inductive ListScreen where
  | containers
  | images
  | networks
  | services
  | nodes
  deriving DecidableEq

/-- What an object is selected for. -/
inductive Use where
  /-- Its id is passed to the daemon. -/
  | passed (operation : Operation)
  | serviceTasks
  | nodeTasks
  deriving DecidableEq

namespace ListScreen

abbrev Item : ListScreen → Type
  | containers => Container
  | images => Image
  | networks => Network
  | services => Service
  | nodes => Node

def view : ListScreen → View
  | containers => .containers
  | images => .images
  | networks => .networks
  | services => .services
  | nodes => .nodes

def listing : (s : ListScreen) → Request (List s.Item)
  | containers => .containers
  | images => .images
  | networks => .networks
  | services => .services
  | nodes => .nodes

/-- The objects as the daemon lists them. -/
def items : (s : ListScreen) → Daemon → List s.Item
  | containers, d => d.containers
  | images, d => d.images
  | networks, d => d.sortedNetworks
  | services, d => d.services
  | nodes, d => d.nodes

def idOf : (s : ListScreen) → s.Item → String
  | containers, c => c.id
  | images, i => i.id
  | networks, n => n.id
  | services, s => s.id
  | nodes, n => n.id

def line : (s : ListScreen) → s.Item → Line
  | containers, c => Row.container c
  | images, i => Row.image i
  | networks, n => Row.network n
  | services, s => Row.service s
  | nodes, n => Row.node n

/-- The call that looks for the object in a row. -/
def lookup : ListScreen → Nat → Call
  | containers, row => ⟨.containerAt, .row row⟩
  | images, row => ⟨.imageAt, .row row⟩
  | networks, row => ⟨.networkAt, .row row⟩
  | services, _ => ⟨.services, .nothing⟩
  | nodes, _ => ⟨.nodes, .nothing⟩

/-- Looking for the object in a row is not made to fail. -/
def LookupWorks (s : ListScreen) (d : Daemon) : Prop :=
  ∀ row, d.failures.get? (s.lookup row).operation = none

/-- What a command uses the selected object of a screen for. -/
def use? : ListScreen → Command → Option Use
  | containers, .kill => some (.passed .kill)
  | containers, .remove => some (.passed .removeContainer)
  | images, .openSelected => some (.passed .inspectImage)
  | images, .history => some (.passed .history)
  | images, .remove => some (.passed .removeImage)
  | images, .forceRemove => some (.passed .removeImage)
  | networks, .openSelected => some (.passed .inspectNetwork)
  | networks, .remove => some (.passed .removeNetwork)
  | services, .openSelected => some .serviceTasks
  | nodes, .openSelected => some .nodeTasks
  | _, _ => none

/-- The listing of an object's screen answers with the objects. -/
theorem call_listing
    {s : ListScreen} {d : Daemon} (hworks : d.failures.get? s.listing.operation = none) :
    d.call s.listing = (.ok (s.items d), d.record s.listing.call) := by
  apply Daemon.call_of_answer hworks
  cases s <;> rfl

end ListScreen

namespace Use

/-- The calls about an object, if there is one. -/
def calls : Use → Option String → List Call
  | passed operation, some id => [⟨operation, .object id⟩]
  | _, _ => []

/-- The service and the node whose tasks are listed. -/
def targets : Use → Option String → Option String × Option String →
    Option String × Option String
  | serviceTasks, some id, (_, node) => (some id, node)
  | nodeTasks, some id, (service, _) => (service, some id)
  | _, _, old => old

end Use

namespace Dashboard

variable {ρ : Type}

/-- The service and the node whose tasks are listed. -/
def targets (b : Dashboard ρ) : Option String × Option String :=
  (b.snapshots.service, b.snapshots.node)

/-- An object was looked for in a row, and if it was found, its id was used. -/
structure UsesRow
    (s : ListScreen) (row : Nat) (use : Use) (found : Option s.Item)
    (b b' : Dashboard ρ) : Prop where
  calls : b'.daemon.calls = use.calls (found.map s.idOf) ++ s.lookup row :: b.daemon.calls
  targets : b'.targets = use.targets (found.map s.idOf) b.targets

theorem UsesRow.of_log
    {s : ListScreen} {row : Nat} {use : Use} {found : Option s.Item} {b b' : Dashboard ρ}
    {lines : List LogLine} (h : UsesRow s row use found (b.log lines) b') :
    UsesRow s row use found b b' :=
  ⟨h.calls, h.targets⟩

theorem fetch_listing
    {s : ListScreen} (b : Dashboard ρ)
    (hworks : b.daemon.failures.get? s.listing.operation = none) :
    b.fetch s.listing =
      (.ok (s.items b.daemon), { b with daemon := b.daemon.record s.listing.call }) := by
  unfold fetch ask
  rw [ListScreen.call_listing hworks]
  rfl

theorem fetch_of_failure
    {α : Type} (b : Dashboard ρ) {request : Request α} {error : DaemonError}
    (hfails : b.daemon.failures.get? request.operation = some error) :
    b.fetch request =
      (.error (.daemon error), { b with daemon := b.daemon.record request.call }) := by
  rw [fetch, ask, Daemon.call_of_failure hfails]
  rfl

/-- One call is made, and the tasks that are listed are as before. -/
structure Makes (call : Call) (b b' : Dashboard ρ) : Prop where
  calls : b'.daemon.calls = call :: b.daemon.calls
  targets : b'.targets = b.targets

/-! ## Finding the object in a row -/

/-- The list of a screen is the one that a position is looked up in. -/
structure LooksIn (s : ListScreen) (row : Nat) (r : ObjectRow) : Prop where
  ids : ∀ d, r.ids d = (s.items d).map s.idOf
  position : r.position = row
  call : r.call = s.lookup row

theorem usesRow_onRow
    {s : ListScreen} {row : Nat} {r : ObjectRow} {operation : Operation} {action : String}
    {next : String → Dashboard ρ → Dashboard ρ} {b : Dashboard ρ}
    (hworks : s.LookupWorks b.daemon) (hlooks : LooksIn s row r)
    (hnext : ∀ id b, Makes ⟨operation, .object id⟩ b (next id b)) :
    UsesRow s row (.passed operation) (s.items b.daemon)[row]? b (b.onRow r action next) := by
  have hlookup : b.daemon.failures.get? r.call.operation = none := hlooks.call ▸ hworks row
  have hid := ObjectRow.objectId_eq hlookup
  rw [hlooks.ids, hlooks.position, List.getElem?_map, hlooks.call] at hid
  cases hitem : (s.items b.daemon)[row]? with
  | some item =>
      rw [hitem] at hid
      rw [onRow_of_ok b hid]
      obtain ⟨hcalls, htargets⟩ :=
        hnext (s.idOf item) { b with daemon := b.daemon.record (s.lookup row) }
      exact ⟨hcalls, htargets⟩
  | none =>
      rw [hitem] at hid
      rw [onRow_of_error b hid]
      exact ⟨rfl, rfl⟩

theorem usesRow_openListed
    {s : ListScreen} {row : Nat} {use : Use} {what : String}
    {next : s.Item → Dashboard ρ → Dashboard ρ} {b : Dashboard ρ}
    (hworks : s.LookupWorks b.daemon) (hlookup : s.lookup row = s.listing.call)
    (hnext : ∀ item (b : Dashboard ρ),
      (next item b).daemon.calls = use.calls (some (s.idOf item)) ++ b.daemon.calls ∧
        (next item b).targets = use.targets (some (s.idOf item)) b.targets) :
    UsesRow s row use (s.items b.daemon)[row]? b
      (openListed (b.fetch s.listing) row what next) := by
  have hlisting : b.daemon.failures.get? s.listing.operation = none := by
    have hrow := hworks row
    rw [hlookup] at hrow
    exact hrow
  rw [fetch_listing b hlisting, ← hlookup]
  cases hitem : (s.items b.daemon)[row]? with
  | some item =>
      obtain ⟨hcalls, htargets⟩ :=
        hnext item { b with daemon := b.daemon.record (s.lookup row) }
      simp only [openListed, hitem]
      exact ⟨hcalls, htargets⟩
  | none =>
      simp only [openListed, hitem]
      cases use <;> exact ⟨rfl, rfl⟩

variable [Refresh ρ]

/-! ## Using an id -/

theorem performNow_frame (b : Dashboard ρ) {m : Mutation} (hm : m ≠ .prune) :
    (b.performNow m).daemon = (b.daemon.call m.request).2 ∧
      (b.performNow m).snapshots = b.snapshots := by
  rcases h : b.daemon.call m.request with ⟨error | answer, d⟩
  · rw [performNow, perform_of_error h]
    exact ⟨rfl, rfl⟩
  · obtain ⟨cache, hcache, -⟩ := keepResult_keeps b m answer fun hprune => absurd hprune hm
    rw [performNow, perform_of_ok h hcache]
    exact ⟨rfl, rfl⟩

theorem makes_performNow (b : Dashboard ρ) {m : Mutation} (hm : m ≠ .prune) :
    Makes m.request.call b (b.performNow m) := by
  obtain ⟨hdaemon, hsnapshots⟩ := performNow_frame b hm
  constructor
  · rw [hdaemon, Daemon.calls_call]
  · rw [targets, hsnapshots]
    rfl

theorem daemon_openDetail (b : Dashboard ρ) (detail : Detail) :
    (b.openDetail detail).daemon = (b.daemon.call detail.request).2 := by
  unfold openDetail load fetch ask
  rcases b.daemon.call detail.request with ⟨error | data, d⟩ <;> rfl

theorem snapshots_openDetail (b : Dashboard ρ) (detail : Detail) :
    (b.openDetail detail).snapshots =
      match (b.daemon.call detail.request).1 with
      | .ok data => detail.store data b.snapshots
      | .error _ => b.snapshots := by
  unfold openDetail load fetch ask
  rcases b.daemon.call detail.request with ⟨error | data, d⟩ <;> rfl

theorem makes_openDetail (b : Dashboard ρ) (detail : Detail) :
    Makes detail.request.call b (b.openDetail detail) := by
  constructor
  · rw [daemon_openDetail, Daemon.calls_call]
  · rw [targets, snapshots_openDetail]
    split
    · cases detail <;> rfl
    · rfl

/-! ## What a command does with its row -/

/-- An operation finds the object in a row by its position and passes the id on. -/
def PassesId (s : ListScreen) (row : Nat) (operation : Operation)
    (run : Dashboard ρ → Dashboard ρ) : Prop :=
  ∃ r action next, LooksIn s row r ∧
    (∀ id (b : Dashboard ρ), Makes ⟨operation, .object id⟩ b (next id b)) ∧
    ∀ b, run b = b.onRow r action next

/-- An operation fetches the list that the row is in, and uses the id of the object in the
row. -/
def UsesListed (s : ListScreen) (row : Nat) (use : Use)
    (run : Dashboard ρ → Dashboard ρ) : Prop :=
  s.lookup row = s.listing.call ∧ ∃ what next,
    (∀ item (b : Dashboard ρ),
      (next item b).daemon.calls = use.calls (some (s.idOf item)) ++ b.daemon.calls ∧
        (next item b).targets = use.targets (some (s.idOf item)) b.targets) ∧
    ∀ b, run b = openListed (b.fetch s.listing) row what next

theorem passesId_performRow
    {s : ListScreen} {row : Nat} {operation : Operation} (r : RowMutation)
    (hlooks : LooksIn s row r.row)
    (hrequest : ∀ id, (r.mutation id).request.call = ⟨operation, .object id⟩) :
    PassesId s row operation fun b : Dashboard ρ => b.performRow r := by
  refine ⟨r.row, r.action, _, hlooks, ?_, fun b => b.performRow_eq r⟩
  intro id b
  rw [← hrequest id]
  exact makes_performNow b (r.mutation_ne_prune id)

theorem passesId_openRow
    {s : ListScreen} {row : Nat} {operation : Operation} (r : RowDetail)
    (hlooks : LooksIn s row r.row)
    (hrequest : ∀ id, (r.detail id).request.call = ⟨operation, .object id⟩) :
    PassesId s row operation fun b : Dashboard ρ => b.openRow r := by
  refine ⟨r.row, r.action, _, hlooks, ?_, fun b => b.openRow_eq r⟩
  intro id b
  rw [← hrequest id]
  exact makes_openDetail b (r.detail id)

/-- A command passes on the id of the object in its row, or uses the one that it finds in a
list. -/
theorem execute_cases
    {s : ListScreen} {command : Command} {use : Use} (huse : s.use? command = some use)
    (row : Nat) :
    let run := fun b : Dashboard ρ => (b.execute command s.view row).2
    (∃ operation, use = .passed operation ∧ PassesId s row operation run) ∨
      UsesListed s row use run := by
  intro run
  -- one case for each entry of the table, in its order
  unfold ListScreen.use? at huse
  split at huse <;> cases huse
  · exact .inl ⟨_, rfl, passesId_performRow (.kill row) ⟨fun _ => rfl, rfl, rfl⟩ fun _ => rfl⟩
  · exact .inl ⟨_, rfl,
      passesId_performRow (.removeContainer row) ⟨fun _ => rfl, rfl, rfl⟩ fun _ => rfl⟩
  · exact .inl ⟨_, rfl, passesId_openRow (.image row) ⟨fun _ => rfl, rfl, rfl⟩ fun _ => rfl⟩
  · exact .inl ⟨_, rfl, passesId_openRow (.history row) ⟨fun _ => rfl, rfl, rfl⟩ fun _ => rfl⟩
  · exact .inl ⟨_, rfl,
      passesId_performRow (.removeImage row false) ⟨fun _ => rfl, rfl, rfl⟩ fun _ => rfl⟩
  · exact .inl ⟨_, rfl,
      passesId_performRow (.removeImage row true) ⟨fun _ => rfl, rfl, rfl⟩ fun _ => rfl⟩
  · exact .inl ⟨_, rfl, passesId_openRow (.network row) ⟨fun _ => rfl, rfl, rfl⟩ fun _ => rfl⟩
  · exact .inl ⟨_, rfl,
      passesId_performRow (.removeNetwork row) ⟨fun _ => rfl, rfl, rfl⟩ fun _ => rfl⟩
  · exact .inr ⟨rfl, "services", fun s b => b.showServiceTasks s.id,
      fun _ _ => ⟨rfl, rfl⟩, fun _ => rfl⟩
  · exact .inr ⟨rfl, "nodes", fun n b => b.showNodeTasks n.id,
      fun _ _ => ⟨rfl, rfl⟩, fun _ => rfl⟩

/-! ## Commands -/

theorem execute_usesRow
    {s : ListScreen} {command : Command} {use : Use} {b : Dashboard ρ}
    (huse : s.use? command = some use) (hworks : s.LookupWorks b.daemon) (row : Nat) :
    (b.execute command s.view row).1 = .ok () ∧
      UsesRow s row use (s.items b.daemon)[row]? b (b.execute command s.view row).2 := by
  constructor
  · unfold ListScreen.use? at huse
    split at huse <;> cases huse <;> rfl
  · rcases execute_cases (ρ := ρ) huse row with
      ⟨operation, rfl, r, action, next, hlooks, hnext, hrun⟩ | ⟨hlookup, what, next, hnext, hrun⟩
    · rw [show (b.execute command s.view row).2 = _ from hrun b]
      exact usesRow_onRow hworks hlooks hnext
    · rw [show (b.execute command s.view row).2 = _ from hrun b]
      exact usesRow_openListed hworks hlookup hnext

theorem dispatch_of_execute
    {b : Dashboard ρ} {command : Command} {cursor : Cursor} (hquit : command ≠ .quit)
    (hexecute : ∀ lines,
      ((b.log lines).execute command b.navigation.view cursor.selected).1 = .ok ()) :
    (b.dispatch command cursor).result = .ok false ∧
      ∃ lines, (b.dispatch command cursor).dashboard =
        ((b.log lines).execute command b.navigation.view cursor.selected).2 := by
  let lines : List LogLine :=
    [.debug ("Dispatching " ++ command.debugName ++ " on " ++ b.navigation.view.debugName ++
      " row " ++ cursor.selected.repr)]
  have hrun : (b.log lines).execute command b.navigation.view cursor.selected =
      (.ok (), ((b.log lines).execute command b.navigation.view cursor.selected).2) :=
    Prod.ext (hexecute lines) rfl
  unfold dispatch
  dsimp only
  rw [show (b.log [_]).execute _ _ _ = _ from hrun]
  simp only [if_neg hquit]
  exact ⟨trivial, lines, rfl⟩

/-- A command for the row under the cursor uses the object in that row of the
list. -/
theorem dispatch_usesRow
    {s : ListScreen} {command : Command} {use : Use} {b : Dashboard ρ}
    (huse : s.use? command = some use) (hview : b.navigation.view = s.view)
    (hworks : s.LookupWorks b.daemon) (cursor : Cursor) :
    (b.dispatch command cursor).result = .ok false ∧
      UsesRow s cursor.selected use (s.items b.daemon)[cursor.selected]? b
        (b.dispatch command cursor).dashboard := by
  have hquit : command ≠ .quit := by
    rintro rfl
    cases s <;> cases huse
  have hexecute (lines : List LogLine) :=
    execute_usesRow (b := b.log lines) huse hworks cursor.selected
  rw [← hview] at hexecute
  obtain ⟨hresult, lines, hdashboard⟩ :=
    dispatch_of_execute hquit fun lines => (hexecute lines).1
  refine ⟨hresult, ?_⟩
  rw [hdashboard]
  exact (hexecute lines).2.of_log

end Dashboard

end ContainerBoard
