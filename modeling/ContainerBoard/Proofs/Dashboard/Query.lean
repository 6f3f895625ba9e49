import ContainerBoard.Dashboard.Detail
import ContainerBoard.Proofs.Daemon.Call
import ContainerBoard.Proofs.Dashboard.Observation

/-!
# Queries

A query says which requests an operation of the dashboard gives to its daemon,
one after the other, and what they find out.  The first request that fails ends
it.

Many operations are about the object in a row, and find out its id first.  What
they do where there is no such object is the same for all of them.
-/

namespace ContainerBoard

variable {α β : Type}

/-- Requests to a daemon that find something out, unless one of them fails. -/
def Query (α : Type) : Type :=
  Daemon → Except BoardError α × Daemon

namespace Query

instance : Monad Query where
  pure value d := (.ok value, d)
  bind query next d :=
    match query d with
    | (.ok value, d) => next value d
    | (.error error, d) => (.error error, d)

theorem bind_eq (query : Query α) (next : α → Query β) (d : Daemon) :
    (query >>= next) d =
      match query d with
      | (.ok value, d) => next value d
      | (.error error, d) => (.error error, d) := rfl

theorem map_eq (change : α → β) (query : Query α) (d : Daemon) :
    (change <$> query) d = ((query d).1.map change, (query d).2) := by
  have hbind : change <$> query = query >>= fun value => pure (change value) := rfl
  rw [hbind, bind_eq]
  rcases query d with ⟨_ | _, d'⟩ <;> rfl

/-- A request for an object, for all objects of a kind, or for a change. -/
def ask (request : Request α) : Query α := fun d =>
  ((d.call request).1.mapError .daemon, (d.call request).2)

/-- A request for the object in a row. -/
def askRow (kind : Resource) (position : Nat) (request : Request α) : Query α := fun d =>
  ((d.call request).1.mapError (.resolution kind position), (d.call request).2)

/-- A row that is not found costs the one call that looked for it. -/
theorem askRow_map_error
    {kind : Resource} {position : Nat} {request : Request α} {change : α → β}
    {d d' : Daemon} {error : BoardError}
    (h : (change <$> askRow kind position request) d = (.error error, d')) :
    d' = d.record request.call := by
  rw [map_eq] at h
  unfold askRow at h
  rcases hcall : d.call request with ⟨cause | value, d₁⟩
  · rw [hcall] at h
    rw [← Daemon.call_error hcall]
    exact (congrArg Prod.snd h).symm
  · rw [hcall] at h
    cases congrArg Prod.fst h

/-- A lookup that is made to fail finds nothing. -/
theorem askRow_map_of_failure
    {kind : Resource} {position : Nat} {change : α → β} {d : Daemon} {error : DaemonError}
    (request : Request α) (hfails : d.failures.get? request.operation = some error) :
    (change <$> askRow kind position request) d =
      (.error (.resolution kind position error), d.record request.call) := by
  rw [map_eq, askRow, Daemon.call_of_failure hfails]
  rfl

/-- A row of a list is looked up in the list, if that operation works. -/
theorem askRow_map_rowOf
    {kind : Resource} {position : Nat} {d : Daemon}
    (request : Request α) (idOf : α → String) (items : List α)
    (hworks : d.failures.get? request.operation = none)
    (hanswer : (d.record request.call).answer request =
      (d.record request.call).answerOnly (Daemon.rowOf kind items position)) :
    (idOf <$> askRow kind position request) d =
      (match (items.map idOf)[position]? with
        | some id => .ok id
        | none => .error (.resolution kind position (.positionOutOfRange kind position)),
        d.record request.call) := by
  rw [map_eq, askRow, List.getElem?_map]
  unfold Daemon.rowOf Daemon.answerOnly at hanswer
  cases hitem : items[position]? with
  | some item =>
      rw [hitem] at hanswer
      rw [Daemon.call_of_answer hworks hanswer]
      rfl
  | none =>
      rw [hitem] at hanswer
      rw [Daemon.call_of_answer_error hworks hanswer]
      rfl

end Query

/-- A row in the list of containers, images or networks. -/
inductive ObjectRow where
  | container (position : Nat)
  | image (position : Nat)
  | network (position : Nat)
  deriving DecidableEq

namespace ObjectRow

/-- How the id of the object in a row is found. -/
def objectId : ObjectRow → Query String
  | container position =>
    Container.id <$> .askRow .container position (.containerAt position)
  | image position => Image.id <$> .askRow .image position (.imageAt position)
  | network position => Network.id <$> .askRow .network position (.networkAt position)

/-- The call that finds it. -/
def call : ObjectRow → Call
  | container position => ⟨.containerAt, .row position⟩
  | image position => ⟨.imageAt, .row position⟩
  | network position => ⟨.networkAt, .row position⟩

/-- Where it is looked for. -/
def position : ObjectRow → Nat
  | container position => position
  | image position => position
  | network position => position

def kind : ObjectRow → Resource
  | container _ => .container
  | image _ => .image
  | network _ => .network

/-- The ids of the list that it is looked for in. -/
def ids : ObjectRow → Daemon → List String
  | container _, d => d.containers.map Container.id
  | image _, d => d.images.map Image.id
  | network _, d => d.sortedNetworks.map Network.id

/-- While the lookup works, it finds the id in that row of the list. -/
theorem objectId_eq
    {row : ObjectRow} {d : Daemon} (hworks : d.failures.get? row.call.operation = none) :
    row.objectId d =
      (match (row.ids d)[row.position]? with
        | some id => .ok id
        | none =>
          .error (.resolution row.kind row.position
            (.positionOutOfRange row.kind row.position)),
        d.record row.call) := by
  cases row with
  | container position =>
      exact Query.askRow_map_rowOf (.containerAt position) Container.id d.containers hworks rfl
  | image position =>
      exact Query.askRow_map_rowOf (.imageAt position) Image.id d.images hworks rfl
  | network position =>
      exact Query.askRow_map_rowOf (.networkAt position) Network.id d.sortedNetworks hworks rfl

/-- A row whose lookup is made to fail is not found. -/
theorem objectId_of_failure
    {row : ObjectRow} {d : Daemon} {error : DaemonError}
    (hfails : d.failures.get? row.call.operation = some error) :
    row.objectId d = (.error (.resolution row.kind row.position error), d.record row.call) := by
  cases row with
  | container position => exact Query.askRow_map_of_failure (.containerAt position) hfails
  | image position => exact Query.askRow_map_of_failure (.imageAt position) hfails
  | network position => exact Query.askRow_map_of_failure (.networkAt position) hfails

theorem objectId_error
    {row : ObjectRow} {d d' : Daemon} {error : BoardError}
    (h : row.objectId d = (.error error, d')) :
    d' = d.record row.call := by
  cases row with
  | container position => exact Query.askRow_map_error h
  | image position => exact Query.askRow_map_error h
  | network position => exact Query.askRow_map_error h

end ObjectRow

namespace Dashboard

variable {ρ : Type}

/-- Goes on with the id of the object in a row, or reports that there is none. -/
def onRow
    (b : Dashboard ρ) (row : ObjectRow) (action : String)
    (next : String → Dashboard ρ → Dashboard ρ) : Dashboard ρ :=
  match row.objectId b.daemon with
  | (.ok id, d) => next id { b with daemon := d }
  | (.error error, d) => { b with daemon := d }.reportFailure action error

/-- What is done with the object in a row, however its id is read off. -/
theorem withRow_fetchRow
    (b : Dashboard ρ) {row : ObjectRow} {kind : Resource} {position : Nat}
    {request : Request α} {idOf : α → String}
    (action : String) (next : String → Dashboard ρ → Dashboard ρ)
    (hrow : row.objectId = idOf <$> Query.askRow kind position request) :
    withRow
        ((b.fetchRow kind position request).1.map idOf,
          (b.fetchRow kind position request).2) action next =
      b.onRow row action next := by
  unfold onRow
  rw [hrow, Query.map_eq]
  unfold fetchRow ask Query.askRow
  rcases b.daemon.call request with ⟨error | value, d⟩ <;> rfl

theorem withRow_containerIdAt
    (b : Dashboard ρ) (position : Nat) (action : String)
    (next : String → Dashboard ρ → Dashboard ρ) :
    withRow (b.containerIdAt position) action next =
      b.onRow (.container position) action next :=
  b.withRow_fetchRow action next rfl

theorem withRow_imageIdAt
    (b : Dashboard ρ) (position : Nat) (action : String)
    (next : String → Dashboard ρ → Dashboard ρ) :
    withRow (b.imageIdAt position) action next =
      b.onRow (.image position) action next :=
  b.withRow_fetchRow action next rfl

theorem withRow_networkIdAt
    (b : Dashboard ρ) (position : Nat) (action : String)
    (next : String → Dashboard ρ → Dashboard ρ) :
    withRow (b.networkIdAt position) action next =
      b.onRow (.network position) action next :=
  b.withRow_fetchRow action next rfl

variable
  {row : ObjectRow} {action : String} {next : String → Dashboard ρ → Dashboard ρ}

theorem onRow_of_ok
    (b : Dashboard ρ) {id : String} {d : Daemon}
    (h : row.objectId b.daemon = (.ok id, d)) :
    b.onRow row action next = next id { b with daemon := d } := by
  rw [onRow, h]

theorem onRow_of_error
    (b : Dashboard ρ) {error : BoardError} {d : Daemon}
    (h : row.objectId b.daemon = (.error error, d)) :
    b.onRow row action next = { b with daemon := d }.reportFailure action error := by
  rw [onRow, h]

/-- A row without an object costs one call and one failure report.  In
particular nothing is asked about an object. -/
theorem onRow_notFound
    {b : Dashboard ρ} {error : BoardError} {d : Daemon}
    (h : row.objectId b.daemon = (.error error, d)) :
    (b.onRow row action next).daemon = b.daemon.record row.call ∧
      Unmoved b (b.onRow row action next) ∧
      Offers (fun b => b.onRow row action next) b [error.userMessage action] := by
  rw [onRow_of_error b h]
  refine ⟨?_, ?_, ?_⟩
  · exact ObjectRow.objectId_error h
  · exact unmoved_reportFailure b d action error
  · intro box
    exact congrArg Dashboard.outbox (onRow_of_error { b with outbox := box } h)

end Dashboard

end ContainerBoard
