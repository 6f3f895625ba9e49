import ContainerBoard.Proofs.Daemon.Call
import Mathlib.Data.List.Basic

/-!
# Removal one by one

Where no id stands twice, a removal by id takes out the object that has the id.  So the
objects that a bulk removal removes may as well be removed one after the other, in whatever
order.
-/

namespace ContainerBoard.Daemon

variable {α ι : Type}

/-! ## Objects with distinct ids -/

/-- No object in front of another one has its id. -/
theorem exists_eq_append_of_mem
    {idOf : ι → String} {items : List ι} (hdistinct : (items.map idOf).Nodup) {item : ι}
    (h : item ∈ items) :
    ∃ front back, items = front ++ item :: back ∧
      ∀ other ∈ front, idOf other ≠ idOf item := by
  obtain ⟨front, back, rfl⟩ := List.append_of_mem h
  refine ⟨front, back, rfl, ?_⟩
  intro other hother
  rw [List.map_append, List.nodup_append] at hdistinct
  exact hdistinct.2.2 _ (List.mem_map_of_mem hother) _
    (List.mem_map_of_mem List.mem_cons_self)

theorem objectOf_of_mem
    {kind : Resource} {idOf : ι → String} {items : List ι}
    (hdistinct : (items.map idOf).Nodup) {item : ι} (h : item ∈ items) :
    objectOf kind idOf items (idOf item) = .ok item := by
  obtain ⟨front, back, hitems, hfront⟩ := exists_eq_append_of_mem hdistinct h
  rw [objectOf_eq_ok_iff, List.find?_eq_some_iff_append]
  refine ⟨beq_self_eq_true _, front, back, hitems, ?_⟩
  intro other hother
  simpa using hfront other hother

theorem eraseP_of_mem
    [DecidableEq ι] {idOf : ι → String} {items : List ι}
    (hdistinct : (items.map idOf).Nodup) {item : ι} (h : item ∈ items) :
    items.eraseP (fun other => idOf other == idOf item) = items.erase item := by
  obtain ⟨front, back, rfl, hfront⟩ := exists_eq_append_of_mem hdistinct h
  have hnew : item ∉ front := fun hmem => hfront item hmem rfl
  have hkeep : ∀ other ∈ front, ¬ (idOf other == idOf item) = true := by
    intro other hother
    simpa using hfront other hother
  rw [List.erase_append_right _ hnew, List.erase_cons_head, List.eraseP_append_right _ hkeep,
    List.eraseP_cons_of_pos (by simp)]

/-! ## A removal by id -/

variable {d : Daemon}

theorem call_removeContainer_of_mem
    (hworks : d.Works) (hdistinct : (d.containers.map Container.id).Nodup) {c : Container}
    (h : c ∈ d.containers) (hstopped : c.isRunning = false) :
    (d.call (.removeContainer c.id)).1 = .ok () ∧
      (d.call (.removeContainer c.id)).2.containers = d.containers.erase c := by
  have hanswer : (d.record (Request.removeContainer c.id).call).answer (.removeContainer c.id) =
      .ok ((), { d.record (Request.removeContainer c.id).call with
        containers := d.containers.eraseP fun other => other.id == c.id }) := by
    change objectOf .container Container.id d.containers c.id >>= _ = _
    rw [objectOf_of_mem hdistinct h]
    simp [bind, Except.bind, hstopped, record]
  rw [call_of_answer (hworks _) hanswer]
  exact ⟨rfl, eraseP_of_mem hdistinct h⟩

theorem call_removeImage_of_mem
    (hworks : d.Works) (hdistinct : (d.images.map Image.id).Nodup) {i : Image}
    (h : i ∈ d.images) :
    (d.call (.removeImage i.id true)).1 = .ok (removalSteps i) ∧
      (d.call (.removeImage i.id true)).2.images = d.images.erase i := by
  have hanswer : (d.record (Request.removeImage i.id true).call).answer (.removeImage i.id true) =
      .ok (removalSteps i, { d.record (Request.removeImage i.id true).call with
        images := d.images.eraseP fun other => other.id == i.id }) := by
    change objectOf .image Image.id d.images i.id >>= _ = _
    rw [objectOf_of_mem hdistinct h]
    simp [bind, Except.bind, record]
  rw [call_of_answer (hworks _) hanswer]
  exact ⟨rfl, eraseP_of_mem hdistinct h⟩

theorem call_removeNetwork_of_mem
    (hworks : d.Works) (hdistinct : (d.networks.map Network.id).Nodup) {n : Network}
    (h : n ∈ d.networks) (hown : n.isPredefined = false) :
    (d.call (.removeNetwork n.id)).1 = .ok () ∧
      (d.call (.removeNetwork n.id)).2.networks = d.networks.erase n := by
  have hanswer : (d.record (Request.removeNetwork n.id).call).answer (.removeNetwork n.id) =
      .ok ((), { d.record (Request.removeNetwork n.id).call with
        networks := d.networks.eraseP fun other => other.id == n.id }) := by
    change objectOf .network Network.id d.networks n.id >>= _ = _
    rw [objectOf_of_mem hdistinct h]
    simp [bind, Except.bind, hown, record]
  rw [call_of_answer (hworks _) hanswer]
  exact ⟨rfl, eraseP_of_mem hdistinct h⟩

/-! ## Requests one after the other -/

/-- Gives the daemon requests one after the other; the answers come in that order. -/
def callEach (d : Daemon) : List (Request α) → List (Except DaemonError α) × Daemon
  | [] => ([], d)
  | request :: later =>
    let rest := (d.call request).2.callEach later
    ((d.call request).1 :: rest.1, rest.2)

/-- A request for an object that satisfies a test is granted, and removes the object from a
list in which no id stands twice. -/
def Removes [DecidableEq ι] (items : Daemon → List ι) (idOf : ι → String) (goes : ι → Bool)
    (request : ι → Request α) (value : ι → α) : Prop :=
  ∀ d : Daemon, d.Works → ((items d).map idOf).Nodup → ∀ item ∈ items d, goes item = true →
    (d.call (request item)).1 = .ok (value item) ∧
      items (d.call (request item)).2 = (items d).erase item

/-- Removing all objects that satisfy a test, in whatever order, leaves the others as they
are. -/
theorem Removes.callEach
    [DecidableEq ι] {items : Daemon → List ι} {idOf : ι → String} {goes : ι → Bool}
    {request : ι → Request α} {value : ι → α}
    (hremoves : Removes items idOf goes request value) (hworks : d.Works)
    (hdistinct : ((items d).map idOf).Nodup) {order : List ι}
    (hperm : order.Perm ((items d).filter goes)) :
    (d.callEach (order.map request)).1 = order.map (fun item => .ok (value item)) ∧
      items (d.callEach (order.map request)).2 = (items d).filter fun item => !goes item := by
  induction order generalizing d with
  | nil =>
      have hstay : ∀ item ∈ items d, (!goes item) = true := by
        simpa using List.filter_eq_nil_iff.mp hperm.nil_eq.symm
      exact ⟨rfl, (List.filter_eq_self.mpr hstay).symm⟩
  | cons item order ih =>
      obtain ⟨hmem, hrest⟩ := List.cons_perm_iff_perm_erase.mp hperm
      obtain ⟨hitem, hgoes⟩ := List.mem_filter.mp hmem
      obtain ⟨hanswer, hitems⟩ := hremoves d hworks hdistinct item hitem hgoes
      rw [List.erase_filter, ← hitems] at hrest
      have hdistinct' : ((items (d.call (request item)).2).map idOf).Nodup := by
        rw [hitems]
        exact hdistinct.sublist (List.erase_sublist.map idOf)
      obtain ⟨hanswers, hkept⟩ := ih (hworks.call (request item)) hdistinct' hrest
      -- the object that is gone is none of those that stay
      have hother : item ∉ (items d).filter fun item => !goes item := by
        simp [hgoes]
      constructor
      · exact congrArg₂ List.cons hanswer hanswers
      · refine hkept.trans ?_
        rw [hitems, ← List.erase_filter, List.erase_of_not_mem hother]

theorem removes_containers :
    Removes Daemon.containers Container.id (fun c => !c.isRunning)
      (fun c => .removeContainer c.id) fun _ => () := by
  intro d hworks hdistinct c hc hgoes
  exact call_removeContainer_of_mem hworks hdistinct hc (by simpa using hgoes)

theorem removes_images :
    Removes Daemon.images Image.id Image.isDangling (fun i => .removeImage i.id true)
      removalSteps := by
  intro d hworks hdistinct i hi _
  exact call_removeImage_of_mem hworks hdistinct hi

/-! ## Bulk removals -/

theorem length_sub_length_filter (keep : ι → Bool) (items : List ι) :
    items.length - (items.filter keep).length =
      (items.filter fun item => !keep item).length := by
  have hlength := items.length_eq_length_filter_add keep
  omega

theorem call_removeStopped (hworks : d.Works) :
    (d.call .removeStopped).1 = .ok (d.containers.filter fun c => !c.isRunning).length ∧
      (d.call .removeStopped).2.containers = d.containers.filter Container.isRunning := by
  rw [call_of_answer (hworks _) rfl, ← length_sub_length_filter]
  exact ⟨rfl, rfl⟩

theorem call_removeDangling (hworks : d.Works) :
    (d.call .removeDangling).1 = .ok (d.images.filter Image.isDangling).length ∧
      (d.call .removeDangling).2.images = d.images.filter fun i => !i.isDangling := by
  have hcount := length_sub_length_filter (fun i => !i.isDangling) d.images
  simp only [Bool.not_not] at hcount
  rw [call_of_answer (hworks _) rfl, ← hcount]
  exact ⟨rfl, rfl⟩

/-- The containers that do not run, removed one by one in whatever order, leave what their
bulk removal leaves, and so do the dangling images, removed by force. -/
theorem removal_one_by_one_eq_bulk (hworks : d.Works) :
    ((d.containers.map Container.id).Nodup →
      ∀ order : List Container, order.Perm (d.containers.filter fun c => !c.isRunning) →
        let run := d.callEach (order.map fun c => .removeContainer c.id)
        run.1 = order.map (fun _ => .ok ()) ∧
          run.2.containers = (d.call .removeStopped).2.containers ∧
          (d.call .removeStopped).1 = .ok order.length) ∧
    ((d.images.map Image.id).Nodup →
      ∀ order : List Image, order.Perm (d.images.filter Image.isDangling) →
        let run := d.callEach (order.map fun i => .removeImage i.id true)
        run.1 = order.map (fun i =>
            .ok (i.tags.map (fun tag => { untagged := some tag }) ++
              [{ deleted := some i.id }])) ∧
          run.2.images = (d.call .removeDangling).2.images ∧
          (d.call .removeDangling).1 = .ok order.length) := by
  constructor
  · intro hdistinct order hperm
    obtain ⟨hanswers, hkept⟩ := removes_containers.callEach hworks hdistinct hperm
    obtain ⟨hcount, hrunning⟩ := call_removeStopped hworks
    simp only [Bool.not_not] at hkept
    exact ⟨hanswers, hkept.trans hrunning.symm, hperm.length_eq ▸ hcount⟩
  · intro hdistinct order hperm
    obtain ⟨hanswers, hkept⟩ := removes_images.callEach hworks hdistinct hperm
    obtain ⟨hcount, htagged⟩ := call_removeDangling hworks
    exact ⟨hanswers, hkept.trans htagged.symm, hperm.length_eq ▸ hcount⟩

/-- Two containers that have ended and two images without a tag are removed, the last one
first. -/
theorem last_ones_removed_first :
    let ended (id : String) : Container := { id, image := "app", state := "exited" }
    let bare : Image := { id := "bare" }
    let unnamed : Image := { id := "unnamed", tags := [Image.noTag] }
    let d : Daemon :=
      { containers := [ended "a", { ended "b" with state := "running" }, ended "c"]
        images := [bare, { id := "app", tags := ["app:1"] }, unnamed] }
    d.Works ∧
      (let run := d.callEach [.removeContainer "c", .removeContainer "a"]
       run.1 = [.ok (), .ok ()] ∧
        run.2.containers = (d.call .removeStopped).2.containers) ∧
      (let run := d.callEach [.removeImage "unnamed" true, .removeImage "bare" true]
       run.1 =
          [.ok [{ untagged := some Image.noTag }, { deleted := some "unnamed" }],
            .ok [{ deleted := some "bare" }]] ∧
        run.2.images = (d.call .removeDangling).2.images ∧
        (d.call .removeDangling).1 = .ok 2) := by
  intro ended bare unnamed d
  have hworks : d.Works := fun _ => rfl
  obtain ⟨hcontainers, himages⟩ := removal_one_by_one_eq_bulk hworks
  obtain ⟨hgranted, hkept, -⟩ :=
    hcontainers (by decide) [ended "c", ended "a"] (List.Perm.swap (ended "a") (ended "c") [])
  have hboth := himages (by decide) [unnamed, bare] (List.Perm.swap bare unnamed [])
  exact ⟨hworks, ⟨hgranted, hkept⟩, hboth⟩

end ContainerBoard.Daemon
