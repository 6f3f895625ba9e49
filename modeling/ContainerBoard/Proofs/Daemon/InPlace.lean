import ContainerBoard.Daemon.Sample
import ContainerBoard.Proofs.Daemon.Refusal

/-!
# Requests served in place

The daemon serves a request on its own lists, check by check and write by write.  What
it has written stays written, also if it then fails.  `handle` is the daemon at work in
this way.  All that can make it fail is looked at before the first write, so it comes to
the same as `call`, and a request that fails leaves no trace apart from being counted.
-/

namespace ContainerBoard.Daemon

variable {α β : Type}

/-- Work on a daemon in place: what is written stays written, also if the work then
fails. -/
abbrev Work (α : Type) : Type :=
  ExceptT DaemonError (StateM Daemon) α

namespace Work

/-- What some work finds out, and what it leaves of the daemon. -/
def on (work : Work α) (d : Daemon) : Except DaemonError α × Daemon :=
  (work.run d).run

/-- Looks at the daemon, which may be a reason to fail. -/
def check (look : Daemon → Except DaemonError α) : Work α :=
  ExceptT.mk fun d => pure (look d, d)

def read (look : Daemon → α) : Work α :=
  check fun d => .ok (look d)

def write (change : Daemon → Daemon) : Work Unit :=
  modify change

theorem on_check (look : Daemon → Except DaemonError α) (d : Daemon) :
    (check look).on d = (look d, d) := rfl

theorem on_bind (work : Work α) (next : α → Work β) (d : Daemon) :
    (work >>= next).on d =
      match work.on d with
      | (.ok value, d) => (next value).on d
      | (.error error, d) => (.error error, d) := by
  have hbind : (work >>= next).on d =
      (ExceptT.bindCont next (work.on d).1 (work.on d).2).run := rfl
  rw [hbind]
  rcases work.on d with ⟨error | value, d'⟩ <;> rfl

end Work

open Work

/-- How the daemon serves a request of an operation that works. -/
def serve : {α : Type} → Request α → Work α
  | _, .kill id => do
    let c ← check fun d => objectOf .container Container.id d.containers id
    if c.isRunning then
      write fun d => { d with containers := replaceContainer id killed d.containers }
    else throw (.refused ("container " ++ c.name ++ " is not running"))
  | _, .removeContainer id => do
    let c ← check fun d => objectOf .container Container.id d.containers id
    if c.isRunning then throw (.refused "cannot remove a running container, stop it first")
    else write fun d => { d with containers := d.containers.eraseP fun c => c.id == id }
  | _, .removeImage id force => do
    let i ← check fun d => objectOf .image Image.id d.images id
    let isUsed ← read fun d => d.isUsed i
    if isUsed && !force then
      throw (.refused "image is being used by a container, use force to remove")
    else
      write fun d => { d with images := d.images.eraseP fun i => i.id == id }
      return removalSteps i
  | _, .removeNetwork id => do
    let n ← check fun d => objectOf .network Network.id d.networks id
    if n.isPredefined then
      throw (.refused (n.name ++ " is a pre-defined network and cannot be removed"))
    else write fun d => { d with networks := d.networks.eraseP fun n => n.id == id }
  | _, .removeStopped => do
    let before ← read fun d => d.containers.length
    write fun d => { d with containers := d.containers.filter Container.isRunning }
    let after ← read fun d => d.containers.length
    return before - after
  | _, .removeDangling => do
    let before ← read fun d => d.images.length
    write fun d => { d with images := d.images.filter fun i => !i.isDangling }
    let after ← read fun d => d.images.length
    return before - after
  | _, .prune => do
    let stopped ← read fun d => d.containers.filter fun c => !c.isRunning
    write fun d => { d with containers := d.containers.filter Container.isRunning }
    let dangling ← read fun d => d.images.filter Image.isDangling
    write fun d => { d with images := d.images.filter fun i => !i.isDangling }
    let unused ← read fun d => d.networks.filter isUnused
    write fun d => { d with networks := d.networks.filter fun n => !isUnused n }
    return {
      containers := stopped.map Container.id
      images := dangling.map Image.id
      networks := unused.map Network.id
      volumes := []
      reclaimed := UInt64.ofNat ((dangling.map imageBytes).foldr (· + ·) 0) }
  | _, .subscribe => do
    let place ← read fun d => d.subscriptions.length
    write fun d => { d with sender := some place }
    write fun d =>
      { d with
        subscriptions := d.subscriptions ++ [{ stream := { capacity := streamCapacity } }] }
    return place
  -- all others only look something up
  | _, request => check fun d => (d.answer request).map Prod.fst

/-- How the daemon handles a request: it counts the call, and serves the request unless
its operation was made to fail. -/
def handle (request : Request α) : Work α := do
  write fun d => d.record request.call
  check fun d =>
    match d.failures.get? request.operation with
    | some error => .error error
    | none => .ok ()
  serve request

/-- What an answer leaves of the daemon, also if it is an error. -/
def outcome (d : Daemon) (answer : Except DaemonError (α × Daemon)) :
    Except DaemonError α × Daemon :=
  match answer with
  | .ok (value, d) => (.ok value, d)
  | .error error => (.error error, d)

/-- Work that starts by looking for an object is the same as asking for the object
first. -/
theorem on_check_bind
    {look : Daemon → Except DaemonError α} {next : α → Work β}
    {answer : α → Except DaemonError (β × Daemon)} {d : Daemon}
    (hnext : ∀ value, (next value).on d = d.outcome (answer value)) :
    (check look >>= next).on d = d.outcome (look d >>= answer) := by
  rw [on_bind, on_check]
  cases look d with
  | error error => rfl
  | ok value => exact hnext value

theorem on_check_answer
    {d : Daemon} {request : Request α} {found : Except DaemonError α}
    (hanswer : d.answer request = d.answerOnly found) :
    (check fun d => (d.answer request).map Prod.fst).on d =
      d.outcome (d.answer request) := by
  rw [on_check, hanswer]
  cases found <;> rfl

/-- In place the daemon finds and leaves what its answer says. -/
theorem on_serve (d : Daemon) (request : Request α) :
    (serve request).on d = d.outcome (d.answer request) := by
  cases request with
  | kill id =>
      refine on_check_bind fun c => ?_
      cases c.isRunning <;> rfl
  | removeContainer id =>
      refine on_check_bind fun c => ?_
      cases c.isRunning <;> rfl
  | removeImage id force =>
      refine on_check_bind fun i => ?_
      -- whether the image is used is read off the daemon that the check left as it was
      rw [on_bind]
      change Work.on (if d.isUsed i && !force then _ else _) d = _
      cases d.isUsed i && !force <;> rfl
  | removeNetwork id =>
      refine on_check_bind fun n => ?_
      cases n.isPredefined <;> rfl
  | removeStopped | removeDangling | prune | subscribe => rfl
  | containers | images | networks | nodes | services | info | ping => rfl
  -- all others only look something up
  | _ => exact on_check_answer rfl

/-- The daemon at work in place answers and leaves what a call does. -/
theorem on_handle (d : Daemon) (request : Request α) :
    (handle request).on d = d.call request := by
  have hrecord : (handle request).on d =
      ((check fun d =>
        match d.failures.get? request.operation with
        | some error => Except.error error
        | none => .ok ()) >>= fun _ => serve request).on (d.record request.call) := rfl
  rw [hrecord, on_bind, on_check, call]
  cases (d.record request.call).failures.get? request.operation with
  | some error => rfl
  | none => exact on_serve _ request

/-! ## Requests that fail -/

/-- A call of an operation was counted, and nothing else happened. -/
structure CountedOnly (operation : Operation) (d d' : Daemon) : Prop where
  unchanged : d' = { d with calls := d'.calls }
  counted : d'.callCount operation = d.callCount operation + 1
  others : ∀ other, other ≠ operation → d'.callCount other = d.callCount other

theorem countedOnly_record (d : Daemon) (call : Call) :
    CountedOnly call.operation d (d.record call) where
  unchanged := rfl
  counted := by
    unfold callCount
    exact List.countP_cons_of_pos (by simp)
  others := by
    intro other hother
    unfold callCount
    exact List.countP_cons_of_neg (by simpa using hother.symm)

/-- The reasons to refuse a request do not depend on the calls so far. -/
theorem refuses_record
    (d : Daemon) (call : Call) {error : DaemonError} {request : Request α} :
    (d.record call).Refuses error request ↔ d.Refuses error request := by
  cases request <;> rfl

/-- A request fails with the error that its operation was made to fail with, or else
exactly if it is refused.  Either way the call was counted, and nothing else happened. -/
theorem failed_request_counted_only (d : Daemon) (request : Request α) :
    (handle request).on d = d.call request ∧
      (∀ injected, d.failures.get? request.operation = some injected →
        ((handle request).on d).1 = .error injected) ∧
      (d.failures.get? request.operation = none →
        ∀ error, ((handle request).on d).1 = .error error ↔ d.Refuses error request) ∧
      ∀ error d', (handle request).on d = (.error error, d') →
        CountedOnly request.operation d d' := by
  rw [on_handle]
  refine ⟨rfl, ?_, ?_, ?_⟩
  · intro injected hinjected
    rw [call_of_failure hinjected]
  · intro hworks error
    rw [call_of_no_failure hworks, ← refuses_record d request.call,
      ← answer_eq_error_iff]
    cases (d.record request.call).answer request with
    | error cause => simp
    | ok result => simp
  · intro error d' hfails
    rw [call_error hfails]
    exact countedOnly_record d request.call

/-- An image that a container uses is not removed without force, and the call is all
that is left of the attempt. -/
theorem used_image_kept :
    ((handle (.removeImage Sample.nginxImageId false)).on Sample.daemon).1 =
        .error (.refused "image is being used by a container, use force to remove") ∧
      CountedOnly .removeImage Sample.daemon
        ((handle (.removeImage Sample.nginxImageId false)).on Sample.daemon).2 := by
  obtain ⟨-, -, hrefused, hcounted⟩ :=
    failed_request_counted_only Sample.daemon (.removeImage Sample.nginxImageId false)
  have hfails := (hrefused rfl
    (.refused "image is being used by a container, use force to remove")).mpr
    (.inr ⟨Sample.image Sample.nginxImageId ["nginx:1.25"] 187000000,
      rfl, ⟨rfl, rfl⟩, rfl⟩)
  exact ⟨hfails, hcounted _ _ (Prod.ext hfails rfl)⟩

end ContainerBoard.Daemon
