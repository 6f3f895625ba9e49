import ContainerBoard.Dashboard.Lifecycle
import ContainerBoard.Input.Dispatch
import ContainerBoard.Proofs.Dashboard.Opening
import ContainerBoard.Proofs.Dashboard.Reporting
import ContainerBoard.Screen.Model

/-!
# The operations of a dashboard

What a program can do with a dashboard, apart from ending it.  None of it touches
what the background work is about: the subscription and its stream, the pipeline,
the event log, the janitor and the clock stay as they are, and the outbox stays
open or closed.
-/

namespace ContainerBoard

/-- What is asked of the daemon without a change of the screen. -/
inductive Lookup where
  | containers
  | images
  | networks
  | nodes
  | services
  | serviceTasks (id : String)
  | nodeTasks (id : String)
  | service (id : String)
  | logs (id : String)
  | serviceLogs (id : String)
  | ping
  deriving DecidableEq

namespace Lookup

abbrev Answer : Lookup → Type
  | containers => List Container
  | images => List Image
  | networks => List Network
  | nodes => List Node
  | services => List Service
  | serviceTasks _ => List Task
  | nodeTasks _ => List Task
  | service _ => Service
  | logs _ => List String
  | serviceLogs _ => List String
  | ping => Bool

def request : (lookup : Lookup) → Request lookup.Answer
  | containers => .containers
  | images => .images
  | networks => .networks
  | nodes => .nodes
  | services => .services
  | serviceTasks id => .serviceTasks id
  | nodeTasks id => .nodeTasks id
  | service id => .service id
  | logs id => .logs id
  | serviceLogs id => .serviceLogs id
  | ping => .ping

end Lookup

/-- An operation of a dashboard. -/
inductive Action where
  | setView (view : View)
  | showView (view : View)
  | showMain
  | showServiceTasks (id : String)
  | showNodeTasks (id : String)
  | sortNetworks
  | opening (op : Opening)
  | change (op : Change)
  | lookup (lookup : Lookup)
  /-- The object in a row is looked up. -/
  | find (row : ObjectRow)
  | emit (message : String)
  | takeChannel
  | dispatch (command : Command) (cursor : Cursor)
  /-- What the screen shows is gathered. -/
  | gather (status : Option String)
  deriving DecidableEq

namespace Dashboard

variable {ρ α : Type}

def find (b : Dashboard ρ) : ObjectRow → Dashboard ρ
  | .container position => (b.containerAt position).2
  | .image position => (b.imageAt position).2
  | .network position => (b.networkAt position).2

theorem find_eq (b : Dashboard ρ) (row : ObjectRow) :
    b.find row = { b with daemon := (row.objectId b.daemon).2 } := by
  cases row with
  | _ =>
      rw [ObjectRow.objectId, Query.map_eq]
      rfl

/-- What an operation makes of the dashboard. -/
def act [Refresh ρ] (b : Dashboard ρ) : Action → Dashboard ρ
  | .setView view => b.setView view
  | .showView view => b.showView view
  | .showMain => b.showMain
  | .showServiceTasks id => b.showServiceTasks id
  | .showNodeTasks id => b.showNodeTasks id
  | .sortNetworks => b.sortNetworks
  | .opening op => (op.run b).2
  | .change op => (op.run b).2
  | .lookup lookup => (b.fetch lookup.request).2
  | .find row => b.find row
  | .emit message => (b.emit message).2
  | .takeChannel => b.takeChannel.2
  | .dispatch command cursor => (b.dispatch command cursor).dashboard
  | .gather status => (b.screen status).2

/-- What the background work is about. -/
structure Lifecycle where
  events : EventLog
  pipeline : Pipeline
  janitor : Janitor
  subscription : Nat
  subscriptions : List Subscription
  sender : Option Nat
  isClosed : Bool
  isOutboxClosed : Bool
  isJoined : Bool
  clock : Nat

/-- The part of a dashboard that the background work is about. -/
def lifecycle (b : Dashboard ρ) : Lifecycle where
  events := b.events
  pipeline := b.pipeline
  janitor := b.janitor
  subscription := b.subscription
  subscriptions := b.daemon.subscriptions
  sender := b.daemon.sender
  isClosed := b.isClosed
  isOutboxClosed := b.outbox.isClosed
  isJoined := b.isJoined
  clock := b.clock

/-- A new dashboard listens to the newest subscription of its daemon. -/
theorem lifecycle_start
    {daemon : Daemon} {redraws : ρ} {config : Config} {b : Dashboard ρ}
    (hstart : start daemon redraws config = .ok b) :
    b.lifecycle =
      { events := default
        pipeline := {}
        janitor := .start 0 config.cleanupInterval
        subscription := daemon.subscriptions.length
        subscriptions :=
          daemon.subscriptions ++ [{ stream := { capacity := Daemon.streamCapacity } }]
        sender := some daemon.subscriptions.length
        isClosed := false
        isOutboxClosed := false
        isJoined := false
        clock := 0 } := by
  unfold start at hstart
  rcases hcall : daemon.call .subscribe with ⟨error | place, d⟩
  · rw [hcall] at hstart
    cases hstart
  · rw [hcall] at hstart
    cases hstart
    cases Daemon.call_subscribe hcall
    rfl

/-! ## Steps of operations -/

theorem lifecycle_emit (b : Dashboard ρ) (message : String) :
    (b.emit message).2.lifecycle = b.lifecycle := by
  have hclosed : (b.emit message).2.outbox.isClosed = b.outbox.isClosed :=
    Outbox.isClosed_emit b.outbox message
  unfold lifecycle
  rw [hclosed]
  rfl

theorem lifecycle_say (b : Dashboard ρ) (message : String) :
    (b.say message).lifecycle = b.lifecycle :=
  b.lifecycle_emit message

theorem lifecycle_reportFailure (b : Dashboard ρ) (action : String) (error : BoardError) :
    (b.reportFailure action error).lifecycle = b.lifecycle :=
  lifecycle_say _ _

theorem lifecycle_ask
    (b : Dashboard ρ) (request : Request α) (hkind : request.operation ≠ .subscribe) :
    (b.ask request).2.lifecycle = b.lifecycle := by
  have hsubscriptions : (b.ask request).2.daemon.subscriptions = b.daemon.subscriptions :=
    Daemon.subscriptions_call hkind
  have hsender : (b.ask request).2.daemon.sender = b.daemon.sender :=
    Daemon.sender_call hkind
  unfold lifecycle
  rw [hsubscriptions, hsender]
  rfl

theorem lifecycle_fetch
    (b : Dashboard ρ) (request : Request α) (hkind : request.operation ≠ .subscribe) :
    (b.fetch request).2.lifecycle = b.lifecycle :=
  b.lifecycle_ask request hkind

theorem lifecycle_find (b : Dashboard ρ) (row : ObjectRow) :
    (b.find row).lifecycle = b.lifecycle := by
  cases row with
  | container position => exact b.lifecycle_ask _ (by simp [Request.operation])
  | image position => exact b.lifecycle_ask _ (by simp [Request.operation])
  | network position => exact b.lifecycle_ask _ (by simp [Request.operation])

/-- What is done with the object in a row leaves the lifecycle alone if the rest of it
does. -/
theorem lifecycle_onRow
    (b : Dashboard ρ) (row : ObjectRow) (action : String)
    {next : String → Dashboard ρ → Dashboard ρ}
    (hnext : ∀ id b, (next id b).lifecycle = b.lifecycle) :
    (b.onRow row action next).lifecycle = b.lifecycle := by
  have hfound : { b with daemon := (row.objectId b.daemon).2 }.lifecycle = b.lifecycle := by
    rw [← find_eq]
    exact b.lifecycle_find row
  unfold onRow
  rcases h : row.objectId b.daemon with ⟨error | id, d⟩
  · rw [h] at hfound
    exact (lifecycle_reportFailure _ _ _).trans hfound
  · rw [h] at hfound
    exact (hnext id _).trans hfound

theorem lifecycle_openListed
    {answer : Except BoardError (List α) × Dashboard ρ} {next : α → Dashboard ρ → Dashboard ρ}
    (row : Nat) (what : String) (hnext : ∀ item b, (next item b).lifecycle = b.lifecycle) :
    (openListed answer row what next).lifecycle = answer.2.lifecycle := by
  obtain ⟨error | items, b⟩ := answer
  · exact b.lifecycle_say _
  · simp only [openListed]
    cases items[row]? with
    | none => rfl
    | some item => exact hnext item b

theorem lifecycle_fetchBody
    (b : Dashboard ρ) {request : Request α} (body : α → Body)
    (hkind : request.operation ≠ .subscribe) :
    (b.fetchBody request body).2.lifecycle = b.lifecycle :=
  b.lifecycle_fetch request hkind

theorem lifecycle_networksBody (b : Dashboard ρ) :
    b.networksBody.2.lifecycle = b.lifecycle := by
  have hfetch := b.lifecycle_fetch .networks (by simp [Request.operation])
  unfold networksBody
  rcases h : b.fetch .networks with ⟨error | ns, b'⟩
  · rw [h] at hfetch
    exact hfetch
  · rw [h] at hfetch
    exact hfetch

theorem lifecycle_body (b : Dashboard ρ) : b.body.2.lifecycle = b.lifecycle := by
  unfold body
  cases b.navigation.view with
  | networks => exact b.lifecycle_networksBody
  | containers | images | monitor | nodes | services =>
      exact b.lifecycle_fetchBody _ (by simp [Request.operation])
  | serviceTasks =>
      cases b.snapshots.service with
      | none => rfl
      | some id => exact b.lifecycle_fetchBody _ (by simp [Request.operation])
  | nodeTasks =>
      cases b.snapshots.node with
      | none => rfl
      | some id => exact b.lifecycle_fetchBody _ (by simp [Request.operation])
  -- all others show what is there already
  | _ => rfl

/-! ## Operations -/

variable [Refresh ρ]

theorem lifecycle_load (b : Dashboard ρ) (detail : Detail) :
    (b.load detail).2.lifecycle = b.lifecycle := by
  have hfetch : (b.fetch detail.request).2.lifecycle = b.lifecycle := by
    cases detail with
    | _ => exact b.lifecycle_fetch _ (by simp [Detail.request, Request.operation])
  unfold load
  rcases h : b.fetch detail.request with ⟨error | data, b'⟩
  · rw [h] at hfetch
    exact hfetch
  · rw [h] at hfetch
    exact hfetch

theorem lifecycle_openDetail (b : Dashboard ρ) (detail : Detail) :
    (b.openDetail detail).lifecycle = b.lifecycle := by
  have hload := b.lifecycle_load detail
  unfold openDetail
  rcases h : b.load detail with ⟨error | _, b'⟩
  · rw [h] at hload
    exact (lifecycle_reportFailure _ _ _).trans hload
  · rw [h] at hload
    exact hload

theorem lifecycle_openRow (b : Dashboard ρ) (r : RowDetail) :
    (b.openRow r).lifecycle = b.lifecycle := by
  rw [openRow_eq]
  exact b.lifecycle_onRow _ _ fun id b => b.lifecycle_openDetail _

theorem lifecycle_opening (b : Dashboard ρ) (op : Opening) :
    (op.run b).2.lifecycle = b.lifecycle := by
  cases op with
  | row r => exact b.lifecycle_openRow r
  | detail detail =>
      cases detail with
      | host => exact b.lifecycle_load .host
      | _ => exact b.lifecycle_openDetail _

theorem lifecycle_perform (b : Dashboard ρ) (m : Mutation) :
    (b.perform m).2.lifecycle = b.lifecycle := by
  have hfetch : ((b.say m.announcement).fetch m.request).2.lifecycle = b.lifecycle := by
    have hkind : m.request.operation ≠ .subscribe := by
      cases m with
      | _ => simp [Mutation.request, Request.operation]
    exact (lifecycle_fetch _ _ hkind).trans (b.lifecycle_say _)
  unfold perform
  rcases h : (b.say m.announcement).fetch m.request with ⟨error | answer, b'⟩
  · rw [h] at hfetch
    exact (lifecycle_reportFailure _ _ _).trans hfetch
  · rw [h] at hfetch
    rcases hkept : b'.keepResult m answer with overflow | cache
    · simp only [hkept]
      exact hfetch
    · simp only [hkept]
      exact (lifecycle_say _ _).trans hfetch

theorem lifecycle_performRow (b : Dashboard ρ) (r : RowMutation) :
    (b.performRow r).lifecycle = b.lifecycle := by
  rw [performRow_eq]
  exact b.lifecycle_onRow _ _ fun id b => b.lifecycle_perform _

theorem lifecycle_change (b : Dashboard ρ) (op : Change) :
    (op.run b).2.lifecycle = b.lifecycle := by
  cases op with
  | direct m => exact b.lifecycle_perform m
  | row r => exact b.lifecycle_performRow r

theorem lifecycle_openSelected (b : Dashboard ρ) (view : View) (row : Nat) :
    (b.openSelected view row).lifecycle = b.lifecycle := by
  cases view with
  | images => exact b.lifecycle_openRow _
  | networks => exact b.lifecycle_openRow _
  | services =>
      have hfetch := b.lifecycle_fetch Request.services (by simp [Request.operation])
      have hnext (s : Service) (b : Dashboard ρ) :
          (b.showServiceTasks s.id).lifecycle = b.lifecycle := rfl
      exact (lifecycle_openListed row "services" hnext).trans hfetch
  | nodes =>
      have hfetch := b.lifecycle_fetch Request.nodes (by simp [Request.operation])
      have hnext (n : Node) (b : Dashboard ρ) :
          (b.showNodeTasks n.id).lifecycle = b.lifecycle := rfl
      exact (lifecycle_openListed row "nodes" hnext).trans hfetch
  | _ => rfl

theorem lifecycle_removeSelected (b : Dashboard ρ) (view : View) (row : Nat) :
    (b.removeSelected view row).lifecycle = b.lifecycle := by
  cases view with
  | containers => exact b.lifecycle_performRow _
  | images => exact b.lifecycle_performRow _
  | networks => exact b.lifecycle_performRow _
  | _ => rfl

theorem lifecycle_showHost (b : Dashboard ρ) : b.showHost.lifecycle = b.lifecycle := by
  have hload := b.lifecycle_load .host
  unfold showHost
  rcases h : b.load .host with ⟨error | _, b'⟩
  · rw [h] at hload
    exact (lifecycle_say _ _).trans hload
  · rw [h] at hload
    exact hload

theorem lifecycle_execute (b : Dashboard ρ) (command : Command) (view : View) (row : Nat) :
    (b.execute command view row).2.lifecycle = b.lifecycle := by
  cases command with
  | showNetworks => exact b.lifecycle_openDetail _
  | showInfo => exact b.lifecycle_showHost
  | openSelected => exact b.lifecycle_openSelected view row
  | history => exact b.lifecycle_openRow _
  | kill => exact b.lifecycle_performRow _
  | remove => exact b.lifecycle_removeSelected view row
  | forceRemove => exact b.lifecycle_performRow _
  | removeAllStopped => exact b.lifecycle_perform _
  | removeDangling => exact b.lifecycle_perform _
  | prune => exact b.lifecycle_perform _
  -- all others only change the screen, if anything
  | _ => rfl

/-- A command is logged and then done. -/
theorem dashboard_dispatch (b : Dashboard ρ) (command : Command) (cursor : Cursor) :
    ∃ lines, (b.dispatch command cursor).dashboard =
      ((b.log lines).execute command b.navigation.view cursor.selected).2 := by
  let line := "Dispatching " ++ command.debugName ++ " on " ++ b.navigation.view.debugName ++
    " row " ++ cursor.selected.repr
  refine ⟨[.debug line], ?_⟩
  unfold dispatch
  dsimp only
  split
  · rename_i hdone
    exact (congrArg Prod.snd hdone).symm
  · rename_i hdone
    split
    · exact (congrArg Prod.snd hdone).symm
    · exact (congrArg Prod.snd hdone).symm

theorem lifecycle_dispatch (b : Dashboard ρ) (command : Command) (cursor : Cursor) :
    (b.dispatch command cursor).dashboard.lifecycle = b.lifecycle := by
  obtain ⟨lines, hdispatch⟩ := b.dashboard_dispatch command cursor
  rw [hdispatch]
  exact (b.log lines).lifecycle_execute command _ _

/-- No operation touches what the background work is about. -/
theorem lifecycle_act (b : Dashboard ρ) (action : Action) :
    (b.act action).lifecycle = b.lifecycle := by
  cases action with
  | opening op => exact b.lifecycle_opening op
  | change op => exact b.lifecycle_change op
  | lookup lookup =>
      cases lookup with
      | _ => exact b.lifecycle_fetch _ (by simp [Lookup.request, Request.operation])
  | find row => exact b.lifecycle_find row
  | emit message => exact b.lifecycle_emit message
  | dispatch command cursor => exact b.lifecycle_dispatch command cursor
  | gather status => exact b.lifecycle_body
  -- all others only change the screen, or what was handed out
  | _ => rfl

end Dashboard

end ContainerBoard
