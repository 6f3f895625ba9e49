import ContainerBoard.Proofs.Daemon.Call

/-!
# Requests that fail

A request fails because its operation was made to fail, and then with that error, or
else because it is refused for one of a few reasons that the lists of objects give.
-/

namespace ContainerBoard.Daemon

variable {α β : Type}

/-! ## Reasons -/

/-- The ids of all objects of a kind. -/
def ids (d : Daemon) : Resource → List String
  | .container => d.containers.map Container.id
  | .image => d.images.map Image.id
  | .network => d.networks.map Network.id
  | .service => d.services.map Service.id
  | .node => d.nodes.map Node.id

/-- There is no such row. -/
def NoRow (d : Daemon) (kind : Resource) (position : Nat) (error : DaemonError) : Prop :=
  (d.ids kind).length ≤ position ∧ error = .positionOutOfRange kind position

/-- There is no such object. -/
def NoObject (d : Daemon) (kind : Resource) (id : String) (error : DaemonError) : Prop :=
  id ∉ d.ids kind ∧ error = .notFound kind id

/-- The daemon refuses a request of an operation that works. -/
def Refuses (d : Daemon) (error : DaemonError) : {α : Type} → Request α → Prop
  | _, .containerAt position => d.NoRow .container position error
  | _, .imageAt position => d.NoRow .image position error
  | _, .networkAt position => d.NoRow .network position error
  | _, .containerById id | _, .logs id => d.NoObject .container id error
  | _, .imageById id | _, .inspectImage id | _, .history id => d.NoObject .image id error
  | _, .networkById id | _, .inspectNetwork id => d.NoObject .network id error
  | _, .service id | _, .serviceTasks id | _, .serviceLogs id => d.NoObject .service id error
  | _, .nodeTasks id => d.NoObject .node id error
  | _, .kill id =>
    d.NoObject .container id error ∨
      ∃ c, d.containers.find? (fun c => c.id == id) = some c ∧ c.isRunning = false ∧
        error = .refused ("container " ++ c.name ++ " is not running")
  | _, .removeContainer id =>
    d.NoObject .container id error ∨
      ∃ c, d.containers.find? (fun c => c.id == id) = some c ∧ c.isRunning = true ∧
        error = .refused "cannot remove a running container, stop it first"
  | _, .removeImage id force =>
    d.NoObject .image id error ∨
      ∃ i, d.images.find? (fun i => i.id == id) = some i ∧
        (d.isUsed i = true ∧ force = false) ∧
        error = .refused "image is being used by a container, use force to remove"
  | _, .removeNetwork id =>
    d.NoObject .network id error ∨
      ∃ n, d.networks.find? (fun n => n.id == id) = some n ∧ n.isPredefined = true ∧
        error = .refused (n.name ++ " is a pre-defined network and cannot be removed")
  -- all others are about no object in particular
  | _, _ => False

theorem rowOf_eq_error_iff
    {kind : Resource} {items : List α} {position : Nat} {error : DaemonError} :
    rowOf kind items position = .error error ↔
      items.length ≤ position ∧ error = .positionOutOfRange kind position := by
  unfold rowOf
  cases hitem : items[position]? with
  | some item =>
      have hlt : position < items.length := (List.getElem?_eq_some_iff.mp hitem).1
      simp [Nat.not_le_of_lt hlt]
  | none => simp [List.getElem?_eq_none_iff.mp hitem, eq_comm]

theorem objectOf_eq_error_iff
    {kind : Resource} {idOf : α → String} {items : List α} {id : String}
    {error : DaemonError} :
    objectOf kind idOf items id = .error error ↔
      id ∉ items.map idOf ∧ error = .notFound kind id := by
  unfold objectOf
  cases hfind : items.find? fun item => idOf item == id with
  | some item =>
      have hid : idOf item = id := by simpa using List.find?_some hfind
      have hmem : id ∈ items.map idOf :=
        hid ▸ List.mem_map_of_mem (List.mem_of_find?_eq_some hfind)
      simp [hmem]
  | none =>
      have hnone : id ∉ items.map idOf := by simpa using hfind
      simp [hnone, eq_comm]

theorem map_eq_error_iff
    {found : Except DaemonError α} {change : α → β} {error : DaemonError} :
    found.map change = .error error ↔ found = .error error := by
  cases found <;> simp [Except.map]

/-- What is done with an object fails because there is none, or with the one that is
found. -/
theorem objectOf_bind_eq_error_iff
    {kind : Resource} {idOf : α → String} {items : List α} {id : String}
    {next : α → Except DaemonError β} {error : DaemonError} :
    (objectOf kind idOf items id >>= next) = .error error ↔
      (id ∉ items.map idOf ∧ error = .notFound kind id) ∨
        ∃ item, items.find? (fun item => idOf item == id) = some item ∧
          next item = .error error := by
  have hfind (item : α) :
      items.find? (fun item => idOf item == id) = some item ↔
        objectOf kind idOf items id = .ok item :=
    objectOf_eq_ok_iff.symm
  rw [← objectOf_eq_error_iff]
  simp only [hfind]
  cases objectOf kind idOf items id with
  | error cause => simp [bind, Except.bind]
  | ok item => simp [bind, Except.bind]

theorem length_sortedNetworks (d : Daemon) :
    d.sortedNetworks.length = d.networks.length := by
  unfold sortedNetworks
  split
  · rfl
  · exact List.length_mergeSort _

/-- A request of an operation that works fails exactly if it is refused. -/
theorem answer_eq_error_iff
    {d : Daemon} {request : Request α} {error : DaemonError} :
    d.answer request = .error error ↔ d.Refuses error request := by
  cases request with
  | containerAt position =>
      rw [answer, answerOnly, map_eq_error_iff, rowOf_eq_error_iff]
      simp [Refuses, NoRow, ids]
  | imageAt position =>
      rw [answer, answerOnly, map_eq_error_iff, rowOf_eq_error_iff]
      simp [Refuses, NoRow, ids]
  | networkAt position =>
      rw [answer, answerOnly, map_eq_error_iff, rowOf_eq_error_iff, length_sortedNetworks]
      simp [Refuses, NoRow, ids]
  | containerById id | imageById id | networkById id | inspectNetwork id | service id =>
      rw [answer, answerOnly, map_eq_error_iff, objectOf_eq_error_iff]
      rfl
  | inspectImage id | history id =>
      rw [answer, answerOnly, map_eq_error_iff, map_eq_error_iff, objectOf_eq_error_iff]
      rfl
  | serviceTasks id | nodeTasks id =>
      rw [answer, answerOnly, map_eq_error_iff, tasksOf, map_eq_error_iff,
        objectOf_eq_error_iff]
      rfl
  | logs id | serviceLogs id =>
      rw [answer, answerOnly, map_eq_error_iff, logsOf, map_eq_error_iff,
        objectOf_eq_error_iff]
      rfl
  | kill id =>
      refine objectOf_bind_eq_error_iff.trans (or_congr_right (exists_congr fun c => ?_))
      cases c.isRunning <;> simp [eq_comm]
  | removeContainer id =>
      refine objectOf_bind_eq_error_iff.trans (or_congr_right (exists_congr fun c => ?_))
      cases c.isRunning <;> simp [eq_comm]
  | removeImage id force =>
      refine objectOf_bind_eq_error_iff.trans (or_congr_right (exists_congr fun i => ?_))
      cases d.isUsed i <;> cases force <;> simp [eq_comm]
  | removeNetwork id =>
      refine objectOf_bind_eq_error_iff.trans (or_congr_right (exists_congr fun n => ?_))
      cases n.isPredefined <;> simp [eq_comm]
  | _ => simp [answer, Refuses]

end ContainerBoard.Daemon
