import ContainerBoard.Daemon.Answer
import Mathlib.Data.List.Basic

/-!
# Calls of the daemon

A call that fails leaves the daemon as it is, apart from the record of the
call.  One that succeeds changes the lists of objects as well, and nothing else
unless it asks for a subscription.  The requests that remove many objects keep
the others in their order.
-/

namespace ContainerBoard.Daemon

variable {α : Type}

theorem call_of_failure
    {d : Daemon} {request : Request α} {error : DaemonError}
    (h : d.failures.get? request.operation = some error) :
    d.call request = (.error error, d.record request.call) := by
  simp [call, record, h]

theorem call_of_no_failure
    {d : Daemon} {request : Request α}
    (h : d.failures.get? request.operation = none) :
    d.call request =
      match (d.record request.call).answer request with
      | .ok (value, d) => (.ok value, d)
      | .error error => (.error error, d.record request.call) := by
  have hfailure : (d.record request.call).failures.get? request.operation = none := h
  cases hanswer : (d.record request.call).answer request with
  | error error => simp [call, hfailure, hanswer]
  | ok result => simp [call, hfailure, hanswer]

/-- A call that fails changes nothing, apart from the record of the call. -/
theorem call_error
    {d d' : Daemon} {request : Request α} {error : DaemonError}
    (h : d.call request = (.error error, d')) : d' = d.record request.call := by
  cases hfailure : d.failures.get? request.operation with
  | some injected =>
      rw [call_of_failure hfailure] at h
      exact (congrArg Prod.snd h).symm
  | none =>
      rw [call_of_no_failure hfailure] at h
      split at h
      · cases h
      · exact (congrArg Prod.snd h).symm

/-- A call that succeeds is answered after it was recorded. -/
theorem call_ok
    {d d' : Daemon} {request : Request α} {value : α}
    (h : d.call request = (.ok value, d')) :
    (d.record request.call).answer request = .ok (value, d') := by
  cases hfailure : d.failures.get? request.operation with
  | some injected =>
      rw [call_of_failure hfailure] at h
      cases h
  | none =>
      rw [call_of_no_failure hfailure] at h
      split at h
      · rename_i hanswer
        rw [hanswer]
        cases h
        rfl
      · cases h

/-- What an operation that works answers. -/
theorem call_of_answer
    {d d' : Daemon} {request : Request α} {value : α}
    (hworks : d.failures.get? request.operation = none)
    (hanswer : (d.record request.call).answer request = .ok (value, d')) :
    d.call request = (.ok value, d') := by
  rw [call_of_no_failure hworks, hanswer]

theorem call_of_answer_error
    {d : Daemon} {request : Request α} {error : DaemonError}
    (hworks : d.failures.get? request.operation = none)
    (hanswer : (d.record request.call).answer request = .error error) :
    d.call request = (.error error, d.record request.call) := by
  rw [call_of_no_failure hworks, hanswer]

/-! ## The lists of objects and the record of the calls -/

theorem answerOnly_ok
    {d d' : Daemon} {answer : Except DaemonError α} {value : α}
    (h : d.answerOnly answer = .ok (value, d')) : answer = .ok value ∧ d' = d := by
  cases answer with
  | error error => cases h
  | ok found =>
      cases h
      exact ⟨rfl, rfl⟩

theorem exists_of_bind_ok
    {β : Type} {found : Except DaemonError α} {next : α → Except DaemonError β} {result : β}
    (h : (found >>= next) = .ok result) :
    ∃ value, found = .ok value ∧ next value = .ok result := by
  cases found with
  | error error => cases h
  | ok value => exact ⟨value, rfl, h⟩

theorem objectOf_eq_ok_iff
    {kind : Resource} {idOf : α → String} {items : List α} {id : String} {item : α} :
    objectOf kind idOf items id = .ok item ↔
      items.find? (fun item => idOf item == id) = some item := by
  unfold objectOf
  cases items.find? fun item => idOf item == id <;> simp

/-- Only a running container is killed. -/
theorem kill_ok
    {d d' : Daemon} {id : String} {done : Unit} (h : d.kill id = .ok (done, d')) :
    ∃ c, d.containers.find? (fun c => c.id == id) = some c ∧ c.isRunning = true ∧
      d' = { d with containers := replaceContainer id killed d.containers } := by
  obtain ⟨c, hobject, hkill⟩ := exists_of_bind_ok h
  refine ⟨c, objectOf_eq_ok_iff.mp hobject, ?_⟩
  split at hkill
  · rename_i hrunning
    cases hkill
    exact ⟨hrunning, rfl⟩
  · cases hkill

/-- Only a container that is not running is removed. -/
theorem removeContainer_ok
    {d d' : Daemon} {id : String} {done : Unit} (h : d.removeContainer id = .ok (done, d')) :
    ∃ c, d.containers.find? (fun c => c.id == id) = some c ∧ c.isRunning = false ∧
      d' = { d with containers := d.containers.eraseP fun c => c.id == id } := by
  obtain ⟨c, hobject, hremove⟩ := exists_of_bind_ok h
  refine ⟨c, objectOf_eq_ok_iff.mp hobject, ?_⟩
  split at hremove
  · cases hremove
  · rename_i hstopped
    cases hremove
    exact ⟨Bool.eq_false_iff.mpr hstopped, rfl⟩

/-- Only an image that nothing uses is removed without force. -/
theorem removeImage_ok
    {d d' : Daemon} {id : String} {force : Bool} {steps : List ImageRemoval}
    (h : d.removeImage id force = .ok (steps, d')) :
    ∃ i, d.images.find? (fun i => i.id == id) = some i ∧ (d.isUsed i && !force) = false ∧
      d' = { d with images := d.images.eraseP fun i => i.id == id } := by
  obtain ⟨i, hobject, hremove⟩ := exists_of_bind_ok h
  refine ⟨i, objectOf_eq_ok_iff.mp hobject, ?_⟩
  split at hremove
  · cases hremove
  · rename_i hfree
    cases hremove
    exact ⟨Bool.eq_false_iff.mpr hfree, rfl⟩

/-- Only a network that the daemon did not make itself is removed. -/
theorem removeNetwork_ok
    {d d' : Daemon} {id : String} {done : Unit} (h : d.removeNetwork id = .ok (done, d')) :
    ∃ n, d.networks.find? (fun n => n.id == id) = some n ∧ n.isPredefined = false ∧
      d' = { d with networks := d.networks.eraseP fun n => n.id == id } := by
  obtain ⟨n, hobject, hremove⟩ := exists_of_bind_ok h
  refine ⟨n, objectOf_eq_ok_iff.mp hobject, ?_⟩
  split at hremove
  · cases hremove
  · rename_i hown
    cases hremove
    exact ⟨Bool.eq_false_iff.mpr hown, rfl⟩

/-- A daemon with other lists of objects. -/
def withObjects (d : Daemon) (containers : List Container) (images : List Image)
    (networks : List Network) : Daemon :=
  { d with containers, images, networks }

/-- An answer changes nothing but the lists of objects. -/
theorem answer_eq_withObjects
    {d d' : Daemon} {request : Request α} {value : α}
    (hkind : request.operation ≠ .subscribe) (h : d.answer request = .ok (value, d')) :
    d' = d.withObjects d'.containers d'.images d'.networks := by
  cases request with
  | subscribe => exact absurd rfl hkind
  | containers | images | networks | nodes | services | info | ping
  | removeStopped | removeDangling | prune =>
      cases h
      rfl
  | kill id =>
      obtain ⟨c, -, -, rfl⟩ := kill_ok h
      rfl
  | removeContainer id =>
      obtain ⟨c, -, -, rfl⟩ := removeContainer_ok h
      rfl
  | removeImage id force =>
      obtain ⟨i, -, -, rfl⟩ := removeImage_ok h
      rfl
  | removeNetwork id =>
      obtain ⟨n, -, -, rfl⟩ := removeNetwork_ok h
      rfl
  -- all others leave the daemon as it is
  | _ =>
      rw [(answerOnly_ok h).2]
      rfl

/-- Answering does not touch the record of the calls. -/
theorem calls_answer
    {d d' : Daemon} {request : Request α} {value : α}
    (h : d.answer request = .ok (value, d')) : d'.calls = d.calls := by
  cases request with
  | subscribe =>
      cases h
      rfl
  | _ =>
      rw [answer_eq_withObjects (by simp [Request.operation]) h]
      rfl

/-- Every call is recorded, and nothing else is. -/
theorem calls_call (d : Daemon) (request : Request α) :
    (d.call request).2.calls = request.call :: d.calls := by
  rcases h : d.call request with ⟨error | value, d'⟩
  · rw [call_error h]
    rfl
  · exact calls_answer (call_ok h)

/-! ## What a call leaves alone -/

/-- A call changes nothing but the lists of objects and the record of the calls. -/
theorem call_eq_withObjects
    {d : Daemon} {request : Request α} (hkind : request.operation ≠ .subscribe) :
    (d.call request).2 =
      (d.record request.call).withObjects (d.call request).2.containers
        (d.call request).2.images (d.call request).2.networks := by
  rcases h : d.call request with ⟨error | value, d'⟩
  · rw [call_error h]
    rfl
  · exact answer_eq_withObjects hkind (call_ok h)

theorem subscriptions_call
    {d : Daemon} {request : Request α} (hkind : request.operation ≠ .subscribe) :
    (d.call request).2.subscriptions = d.subscriptions := by
  rw [call_eq_withObjects hkind]
  rfl

theorem sender_call
    {d : Daemon} {request : Request α} (hkind : request.operation ≠ .subscribe) :
    (d.call request).2.sender = d.sender := by
  rw [call_eq_withObjects hkind]
  rfl

/-- A subscription that is given is the newest one, and it is sent to. -/
theorem call_subscribe
    {d d' : Daemon} {place : Nat} (h : d.call .subscribe = (.ok place, d')) :
    (place, d') = (d.record Request.subscribe.call).subscribe :=
  (Except.ok.inj (call_ok h)).symm

/-! ## The lists that a request may change -/

end Daemon

/-- The kinds of objects that an operation may change. -/
def Operation.changes : Operation → List Resource
  | .kill | .removeContainer | .removeStopped => [.container]
  | .removeImage | .removeDangling => [.image]
  | .removeNetwork => [.network]
  | .prune => [.container, .image, .network]
  | _ => []

namespace Daemon

/-- The objects of a kind are the same. -/
def SameObjects (d d' : Daemon) : Resource → Prop
  | .container => d'.containers = d.containers
  | .image => d'.images = d.images
  | .network => d'.networks = d.networks
  | .service => d'.services = d.services
  | .node => d'.nodes = d.nodes

theorem SameObjects.refl (d : Daemon) (kind : Resource) : d.SameObjects d kind := by
  cases kind <;> rfl

theorem SameObjects.trans
    {d d₁ d₂ : Daemon} {kind : Resource} (hearlier : d.SameObjects d₁ kind)
    (hlater : d₁.SameObjects d₂ kind) : d.SameObjects d₂ kind := by
  cases kind <;> exact Eq.trans hlater hearlier

theorem sameObjects_record (d : Daemon) (call : Call) (kind : Resource) :
    d.SameObjects (d.record call) kind := by
  cases kind <;> rfl

theorem sameObjects_answer
    {d d' : Daemon} {request : Request α} {value : α} {kind : Resource}
    (hkind : kind ∉ request.operation.changes) (h : d.answer request = .ok (value, d')) :
    d.SameObjects d' kind := by
  cases request with
  | kill id =>
      obtain ⟨c, -, -, rfl⟩ := kill_ok h
      cases kind with
      | container => exact absurd (List.mem_singleton_self _) hkind
      | _ => rfl
  | removeContainer id =>
      obtain ⟨c, -, -, rfl⟩ := removeContainer_ok h
      cases kind with
      | container => exact absurd (List.mem_singleton_self _) hkind
      | _ => rfl
  | removeImage id force =>
      obtain ⟨i, -, -, rfl⟩ := removeImage_ok h
      cases kind with
      | image => exact absurd (List.mem_singleton_self _) hkind
      | _ => rfl
  | removeNetwork id =>
      obtain ⟨n, -, -, rfl⟩ := removeNetwork_ok h
      cases kind with
      | network => exact absurd (List.mem_singleton_self _) hkind
      | _ => rfl
  | removeStopped =>
      cases h
      cases kind with
      | container => exact absurd (List.mem_singleton_self _) hkind
      | _ => rfl
  | removeDangling =>
      cases h
      cases kind with
      | image => exact absurd (List.mem_singleton_self _) hkind
      | _ => rfl
  | prune =>
      cases h
      cases kind with
      | service | node => rfl
      | _ => simp [Request.operation, Operation.changes] at hkind
  | containers | images | networks | nodes | services | info | ping | subscribe =>
      cases h
      cases kind <;> rfl
  -- all others leave the daemon as it is
  | _ =>
      rw [(answerOnly_ok h).2]
      exact SameObjects.refl d kind

/-- A call changes only the kinds of objects that its operation is about. -/
theorem sameObjects_call
    {d : Daemon} {request : Request α} {kind : Resource}
    (hkind : kind ∉ request.operation.changes) :
    d.SameObjects (d.call request).2 kind := by
  rcases h : d.call request with ⟨error | value, d'⟩
  · rw [call_error h]
    exact sameObjects_record d request.call kind
  · exact (sameObjects_record d request.call kind).trans
      (sameObjects_answer hkind (call_ok h))

/-- The order of the network list is told, and never asked for. -/
theorem sort_call (d : Daemon) (request : Request α) :
    (d.call request).2.sort = d.sort ∧ (d.call request).2.directives = d.directives := by
  rcases h : d.call request with ⟨error | value, d'⟩
  · rw [call_error h]
    exact ⟨rfl, rfl⟩
  · have hanswer := call_ok h
    cases request with
    | subscribe =>
        cases hanswer
        exact ⟨rfl, rfl⟩
    | _ =>
        change d'.sort = _ ∧ d'.directives = _
        rw [answer_eq_withObjects (by simp [Request.operation]) hanswer]
        exact ⟨rfl, rfl⟩

/-! ## Daemons that work -/

/-- No operation is made to fail. -/
def Works (d : Daemon) : Prop :=
  ∀ operation, d.failures.get? operation = none

theorem failures_call (d : Daemon) (request : Request α) :
    (d.call request).2.failures = d.failures := by
  rcases h : d.call request with ⟨error | value, d'⟩
  · rw [call_error h]
    rfl
  · have hanswer := call_ok h
    cases request with
    | subscribe =>
        cases hanswer
        rfl
    | _ =>
        change d'.failures = _
        rw [answer_eq_withObjects (by simp [Request.operation]) hanswer]
        rfl

theorem Works.call {d : Daemon} (hworks : d.Works) (request : Request α) :
    (d.call request).2.Works := by
  intro operation
  rw [failures_call]
  exact hworks operation

/-! ## Objects that disappear -/

/-- The number of objects in the daemon's lists. -/
def objectCount (d : Daemon) : Nat :=
  d.containers.length + d.images.length + d.networks.length

/-- Some objects disappear from the lists, and the others stay in order. -/
structure Loses (d d' : Daemon) (count : Nat) : Prop where
  containers : d'.containers.Sublist d.containers
  images : d'.images.Sublist d.images
  networks : d'.networks.Sublist d.networks
  objectCount : d.objectCount = d'.objectCount + count

/-- Recording a call makes no object disappear. -/
theorem Loses.of_record
    {d d' : Daemon} {call : Call} {count : Nat} (h : (d.record call).Loses d' count) :
    d.Loses d' count :=
  ⟨h.containers, h.images, h.networks, h.objectCount⟩

theorem removeStopped_loses (d : Daemon) :
    d.Loses d.removeStopped.2 d.removeStopped.1 where
  containers := List.filter_sublist
  images := List.Sublist.refl _
  networks := List.Sublist.refl _
  objectCount := by
    have hle := List.length_filter_le Container.isRunning d.containers
    simp only [Daemon.objectCount, removeStopped]
    omega

theorem removeDangling_loses (d : Daemon) :
    d.Loses d.removeDangling.2 d.removeDangling.1 where
  containers := List.Sublist.refl _
  images := List.filter_sublist
  networks := List.Sublist.refl _
  objectCount := by
    have hle := List.length_filter_le (fun i => !i.isDangling) d.images
    simp only [Daemon.objectCount, removeDangling]
    omega

theorem pruned_loses (d : Daemon) : d.Loses d.pruned d.pruneReport.total where
  containers := List.filter_sublist
  images := List.filter_sublist
  networks := List.filter_sublist
  objectCount := by
    have hcontainers := d.containers.length_eq_length_filter_add Container.isRunning
    have himages := d.images.length_eq_length_filter_add Image.isDangling
    have hnetworks := d.networks.length_eq_length_filter_add isUnused
    simp only [Daemon.objectCount, pruned, PruneReport.total, pruneReport, List.length_map,
      List.length_nil]
    omega

end ContainerBoard.Daemon
