import ContainerBoard.Daemon.Sample
import ContainerBoard.Proofs.Daemon.Call
import Mathlib.Data.List.Forall2

/-!
# What survives every run

A run is any sequence of requests, of sort orders and of failures that come and go.
Nothing is ever added to the lists of the daemon, and what stays in them stays in order.

Some objects are protected: the networks that the daemon made itself, networks with
containers attached to them, containers that are running, and images with a tag.  Each
request spares certain objects of each list, and leaves them as they are.  What all
requests of a run spare survives the run.
-/

namespace ContainerBoard

variable {α β : Type}

/-! ## What a request spares -/

namespace Request

/-- The containers that a request leaves as they are. -/
def sparesContainer : {α : Type} → Request α → Container → Bool
  | _, .kill id, c => c.id != id
  | _, .removeContainer id, c => c.id != id || c.isRunning
  | _, .removeStopped, c => c.isRunning
  | _, .prune, c => c.isRunning
  | _, _, _ => true

def sparesImage (d : Daemon) : {α : Type} → Request α → Image → Bool
  | _, .removeImage id force, i => i.id != id || (d.isUsed i && !force)
  | _, .removeDangling, i => !i.isDangling
  | _, .prune, i => !i.isDangling
  | _, _, _ => true

def sparesNetwork : {α : Type} → Request α → Network → Bool
  | _, .removeNetwork id, n => n.id != id || n.isPredefined
  | _, .prune, n => !Daemon.isUnused n
  | _, _, _ => true

end Request

namespace Daemon

/-- A container after some time: it may have been killed while it was running. -/
def Aged (later earlier : Container) : Prop :=
  later = earlier ∨ earlier.isRunning = true ∧ later = killed earlier

instance : Std.Refl Aged where
  refl _ := .inl rfl

theorem isRunning_killed (c : Container) : (killed c).isRunning = false := rfl

instance : IsTrans Container Aged where
  trans := by
    intro c₃ c₂ c₁ hlater hearlier
    rcases hearlier with rfl | ⟨hrunning, rfl⟩
    · exact hlater
    · rcases hlater with rfl | ⟨hkilled, -⟩
      · exact .inr ⟨hrunning, rfl⟩
      · rw [isRunning_killed] at hkilled
        cases hkilled

theorem filter_filtered (p : α → Bool) (items : List α) :
    (items.filter p).filter p = items.filter p := by
  simp

theorem filter_eraseP_of_find?
    {p q : α → Bool} {items : List α} {item : α}
    (hfind : items.find? q = some item) (hspared : p item = false) :
    (items.eraseP q).filter p = items.filter p := by
  induction items with
  | nil => rfl
  | cons first rest ih =>
      cases hq : q first with
      | true =>
          have hfirst : first = item := by simpa [hq] using hfind
          rw [List.eraseP_cons_of_pos hq, List.filter_cons_of_neg (by simp [hfirst, hspared])]
      | false =>
          have hrest : rest.find? q = some item := by simpa [hq] using hfind
          rw [List.eraseP_cons_of_neg (by simp [hq]), List.filter_cons, List.filter_cons,
            ih hrest]

theorem filter_replaceContainer
    {id : String} {change : Container → Container} {p : Container → Bool}
    {containers : List Container} (hspared : ∀ c, c.id = id → p c = false ∧ p (change c) = false) :
    (replaceContainer id change containers).filter p = containers.filter p := by
  induction containers with
  | nil => rfl
  | cons c rest ih =>
      unfold replaceContainer
      split
      · rename_i hid
        obtain ⟨hbefore, hafter⟩ := hspared c (beq_iff_eq.mp hid)
        simp [hbefore, hafter]
      · rw [List.filter_cons, List.filter_cons, ih]

theorem aged_replaceContainer
    {id : String} {containers : List Container} {c : Container}
    (hfind : containers.find? (fun c => c.id == id) = some c) (hrunning : c.isRunning = true) :
    List.SublistForall₂ Aged (replaceContainer id killed containers) containers := by
  induction containers with
  | nil => exact .nil
  | cons first rest ih =>
      unfold replaceContainer
      split
      · rename_i hid
        have hfirst : first = c := by simpa [hid] using hfind
        exact .cons (.inr ⟨hfirst ▸ hrunning, rfl⟩) (refl_of _ rest)
      · rename_i hid
        exact .cons (.inl rfl) (ih (by simpa [hid] using hfind))

/-- Nothing is added to the lists of objects, and what stays in them stays in order. -/
structure Ages (d d' : Daemon) : Prop where
  containers : List.SublistForall₂ Aged d'.containers d.containers
  images : d'.images.Sublist d.images
  networks : d'.networks.Sublist d.networks

theorem Ages.of_same
    {d d' : Daemon} (hcontainers : d'.containers = d.containers)
    (himages : d'.images = d.images) (hnetworks : d'.networks = d.networks) :
    Ages d d' where
  containers := by
    rw [hcontainers]
    exact refl_of _ _
  images := himages ▸ List.Sublist.refl _
  networks := hnetworks ▸ List.Sublist.refl _

theorem Ages.trans {d d₁ d₂ : Daemon} (hearlier : Ages d d₁) (hlater : Ages d₁ d₂) :
    Ages d d₂ where
  containers := trans_of _ hlater.containers hearlier.containers
  images := hlater.images.trans hearlier.images
  networks := hlater.networks.trans hearlier.networks

/-- The lists of objects age, and keep what a request spares. -/
structure Keeps (d d' : Daemon) (request : Request α) : Prop extends Ages d d' where
  sparedContainers :
    d'.containers.filter request.sparesContainer = d.containers.filter request.sparesContainer
  sparedImages :
    d'.images.filter (request.sparesImage d) = d.images.filter (request.sparesImage d)
  sparedNetworks :
    d'.networks.filter request.sparesNetwork = d.networks.filter request.sparesNetwork

/-- A request that leaves the lists of objects alone keeps all of them. -/
theorem Keeps.of_same
    {d d' : Daemon} {request : Request α} (hcontainers : d'.containers = d.containers)
    (himages : d'.images = d.images) (hnetworks : d'.networks = d.networks) :
    Keeps d d' request where
  toAges := Ages.of_same hcontainers himages hnetworks
  sparedContainers := by rw [hcontainers]
  sparedImages := by rw [himages]
  sparedNetworks := by rw [hnetworks]

theorem Keeps.refl (d : Daemon) (request : Request α) : Keeps d d request :=
  Keeps.of_same rfl rfl rfl

theorem id_of_find?
    {idOf : α → String} {items : List α} {id : String} {item : α}
    (hfind : items.find? (fun item => idOf item == id) = some item) : idOf item = id := by
  simpa using List.find?_some hfind

/-- Every request that is answered keeps what it spares. -/
theorem answer_keeps
    {d d' : Daemon} {request : Request α} {value : α}
    (h : d.answer request = .ok (value, d')) : Keeps d d' request := by
  cases request with
  | kill id =>
      obtain ⟨c, hfind, hrunning, rfl⟩ := kill_ok h
      exact {
        Keeps.refl d (.kill id) with
        containers := aged_replaceContainer hfind hrunning
        sparedContainers := filter_replaceContainer fun c hid =>
          ⟨by simp [Request.sparesContainer, hid],
           by simp [Request.sparesContainer, killed, hid]⟩ }
  | removeContainer id =>
      obtain ⟨c, hfind, hstopped, rfl⟩ := removeContainer_ok h
      exact {
        Keeps.refl d (.removeContainer id) with
        containers := (List.eraseP_sublist).sublistForall₂
        sparedContainers := filter_eraseP_of_find? hfind
          (by simp [Request.sparesContainer, id_of_find? hfind, hstopped]) }
  | removeImage id force =>
      obtain ⟨i, hfind, hfree, rfl⟩ := removeImage_ok h
      exact {
        Keeps.refl d (.removeImage id force) with
        images := List.eraseP_sublist
        sparedImages := filter_eraseP_of_find? hfind
          (by simp [Request.sparesImage, id_of_find? hfind, hfree]) }
  | removeNetwork id =>
      obtain ⟨n, hfind, hown, rfl⟩ := removeNetwork_ok h
      exact {
        Keeps.refl d (.removeNetwork id) with
        networks := List.eraseP_sublist
        sparedNetworks := filter_eraseP_of_find? hfind
          (by simp [Request.sparesNetwork, id_of_find? hfind, hown]) }
  | removeStopped =>
      cases h
      exact {
        Keeps.refl d (.removeStopped) with
        containers := List.filter_sublist.sublistForall₂
        sparedContainers := filter_filtered _ _ }
  | removeDangling =>
      cases h
      exact {
        Keeps.refl d (.removeDangling) with
        images := List.filter_sublist
        sparedImages := filter_filtered _ _ }
  | prune =>
      cases h
      exact {
        containers := List.filter_sublist.sublistForall₂
        images := List.filter_sublist
        networks := List.filter_sublist
        sparedContainers := filter_filtered _ _
        sparedImages := filter_filtered _ _
        sparedNetworks := filter_filtered _ _ }
  | containers | images | networks | nodes | services | info | ping | subscribe =>
      cases h
      exact Keeps.of_same rfl rfl rfl
  -- all others leave the daemon as it is
  | _ =>
      obtain ⟨-, rfl⟩ := answerOnly_ok h
      exact Keeps.refl _ _

/-! ## Runs -/

/-- What happens to a daemon. -/
inductive Move : Type 1 where
  | call {α : Type} (request : Request α)
  | sort (mode : SortMode)
  | fail (operation : Operation) (error : DaemonError)
  | clearFailure (operation : Operation)

/-- The operation that a move asks for. -/
def Move.operation? : Move → Option Operation
  | .call request => some request.operation
  | _ => none

def move (d : Daemon) : Move → Daemon
  | .call request => (d.call request).2
  | .sort mode => d.sortNetworks mode
  | .fail operation error => d.fail operation error
  | .clearFailure operation => d.clearFailure operation

def after (d : Daemon) (moves : List Move) : Daemon :=
  moves.foldl move d

def Grants (d : Daemon) (request : Request α) : Prop :=
  ∃ value, (d.call request).1 = .ok value

/-- Somewhere in the run the daemon grants the request. -/
def Granted (d : Daemon) (moves : List Move) (request : Request α) : Prop :=
  ∃ earlier later, moves = earlier ++ .call request :: later ∧ (d.after earlier).Grants request

theorem call_of_not_grants
    {d : Daemon} {request : Request α} (h : ¬ d.Grants request) :
    (d.call request).2 = d.record request.call := by
  rcases hcall : d.call request with ⟨error | value, d'⟩
  · exact call_error hcall
  · exact absurd ⟨value, congrArg Prod.fst hcall⟩ h

/-- Every call keeps what its request spares. -/
theorem call_keeps (d : Daemon) (request : Request α) :
    Keeps d (d.call request).2 request := by
  rcases h : d.call request with ⟨error | value, d'⟩
  · rw [call_error h]
    exact Keeps.of_same rfl rfl rfl
  · have hkeeps := answer_keeps (call_ok h)
    exact ⟨⟨hkeeps.containers, hkeeps.images, hkeeps.networks⟩, hkeeps.sparedContainers,
      hkeeps.sparedImages, hkeeps.sparedNetworks⟩

theorem ages_move (d : Daemon) (m : Move) : Ages d (d.move m) := by
  cases m with
  | call request => exact (call_keeps d request).toAges
  | _ => exact Ages.of_same rfl rfl rfl

theorem ages_after (d : Daemon) (moves : List Move) : Ages d (d.after moves) := by
  induction moves generalizing d with
  | nil => exact Ages.of_same rfl rfl rfl
  | cons m moves ih => exact (ages_move d m).trans (ih (d.move m))

/-- What is said of the lists of objects, and of nothing else about the daemon. -/
def OfObjects (f : Daemon → β) : Prop :=
  ∀ d d' : Daemon, d'.containers = d.containers → d'.images = d.images →
    d'.networks = d.networks → f d' = f d

theorem ofObjects_containers (f : List Container → β) :
    OfObjects fun d => f d.containers :=
  fun _ _ hcontainers _ _ => congrArg f hcontainers

theorem ofObjects_images (f : List Image → β) : OfObjects fun d => f d.images :=
  fun _ _ _ himages _ => congrArg f himages

theorem ofObjects_networks (f : List Network → β) : OfObjects fun d => f d.networks :=
  fun _ _ _ _ hnetworks => congrArg f hnetworks

/-- What no granted request of a run changes is the same after the run. -/
theorem after_eq_of_granted_eq
    {f : Daemon → β} (hf : OfObjects f) {d : Daemon} {moves : List Move}
    (h : ∀ {α : Type} (request : Request α) earlier later,
      moves = earlier ++ .call request :: later → (d.after earlier).Grants request →
        f ((d.after earlier).call request).2 = f (d.after earlier)) :
    f (d.after moves) = f d := by
  induction moves generalizing d with
  | nil => rfl
  | cons m moves ih =>
      have hrest : f ((d.move m).after moves) = f (d.move m) := by
        apply ih
        rintro α request earlier later rfl hgrants
        exact h request (m :: earlier) later rfl hgrants
      have hfirst : f (d.move m) = f d := by
        cases m with
        | call request =>
            -- a request that fails is counted, and counts are no objects
            by_cases hgrants : d.Grants request
            · exact h request [] moves rfl hgrants
            · change f (d.call request).2 = f d
              rw [call_of_not_grants hgrants]
              exact hf d _ rfl rfl rfl
        | sort mode => exact hf d _ rfl rfl rfl
        | fail operation error => exact hf d _ rfl rfl rfl
        | clearFailure operation => exact hf d _ rfl rfl rfl
      exact hrest.trans hfirst

/-! ## Protected objects -/

theorem filter_eq_of_imp
    {p q : α → Bool} {items items' : List α} (hpq : ∀ item, p item = true → q item = true)
    (h : items'.filter q = items.filter q) : items'.filter p = items.filter p := by
  have hp (items : List α) : items.filter p = (items.filter q).filter p := by
    rw [List.filter_filter]
    apply List.filter_congr
    intro item _
    cases hitem : p item with
    | true => simp [hpq item hitem]
    | false => rfl
  rw [hp items', hp items, h]

theorem sparesContainer_of_isRunning
    {request : Request α} {c : Container} (hrunning : c.isRunning = true)
    (hkill : Move.call request ≠ .call (.kill c.id)) :
    request.sparesContainer c = true := by
  cases request with
  | kill id =>
      have hid : c.id ≠ id := by
        rintro rfl
        exact hkill rfl
      simpa [Request.sparesContainer] using hid
  | removeContainer id => simp [Request.sparesContainer, hrunning]
  | removeStopped | prune => exact hrunning
  | _ => rfl

theorem sparesNetwork_of_isPredefined
    {request : Request α} {n : Network} (hown : n.isPredefined = true) :
    request.sparesNetwork n = true := by
  cases request with
  | removeNetwork id => simp [Request.sparesNetwork, hown]
  | prune => simp [Request.sparesNetwork, isUnused, hown]
  | _ => rfl

theorem sparesNetwork_of_isUsed
    {request : Request α} {n : Network} (hused : n.isUsed = true)
    (hremove : Move.call request ≠ .call (.removeNetwork n.id)) :
    request.sparesNetwork n = true := by
  cases request with
  | removeNetwork id =>
      have hid : n.id ≠ id := by
        rintro rfl
        exact hremove rfl
      simp [Request.sparesNetwork, hid]
  | prune => simp [Request.sparesNetwork, isUnused, hused]
  | _ => rfl

theorem sparesImage_of_not_isDangling
    {d : Daemon} {request : Request α} {i : Image} (htagged : i.isDangling = false)
    (hremove : ∀ force, Move.call request = .call (.removeImage i.id force) →
      force = false ∧ d.isUsed i = true) :
    request.sparesImage d i = true := by
  cases request with
  | removeImage id force =>
      by_cases hid : i.id = id
      · subst hid
        obtain ⟨hforce, hused⟩ := hremove force rfl
        simp [Request.sparesImage, hforce, hused]
      · simp [Request.sparesImage, hid]
  | removeDangling | prune => simp [Request.sparesImage, htagged]
  | _ => rfl

/-- What a run leaves of the objects that the daemon had before. -/
structure Survival (d : Daemon) (moves : List Move) : Prop extends Ages d (d.after moves) where
  predefined :
    (d.after moves).networks.filter Network.isPredefined =
      d.networks.filter Network.isPredefined
  /-- Networks in use go only by their id. -/
  attached : ∀ id, ¬ d.Granted moves (.removeNetwork id) →
    (d.after moves).networks.filter (fun n => n.isUsed && n.id == id) =
      d.networks.filter fun n => n.isUsed && n.id == id
  /-- Containers keep running until they are killed. -/
  running : ∀ id, ¬ d.Granted moves (.kill id) →
    (d.after moves).containers.filter (fun c => c.isRunning && c.id == id) =
      d.containers.filter fun c => c.isRunning && c.id == id
  /-- Images with a tag go only by their id. -/
  tagged : ∀ id, (∀ force, ¬ d.Granted moves (.removeImage id force)) →
    (d.after moves).images.filter (fun i => !i.isDangling && i.id == id) =
      d.images.filter fun i => !i.isDangling && i.id == id
  /-- While they are in use, they go only by force. -/
  inUse : ∀ earlier m later id, moves = earlier ++ m :: later →
    m ≠ .call (.removeImage id true) →
      ((d.after earlier).move m).images.filter
          (fun i => !i.isDangling && (d.after earlier).isUsed i && i.id == id) =
        (d.after earlier).images.filter
          fun i => !i.isDangling && (d.after earlier).isUsed i && i.id == id

theorem usedImages_move
    {d : Daemon} {m : Move} {id : String} (hforce : m ≠ .call (.removeImage id true)) :
    (d.move m).images.filter (fun i => !i.isDangling && d.isUsed i && i.id == id) =
      d.images.filter fun i => !i.isDangling && d.isUsed i && i.id == id := by
  cases m with
  | call request =>
      refine filter_eq_of_imp ?_ (call_keeps d request).sparedImages
      intro i hi
      obtain ⟨⟨htagged, hused⟩, rfl⟩ : (i.isDangling = false ∧ d.isUsed i = true) ∧ i.id = id := by
        simpa using hi
      refine sparesImage_of_not_isDangling htagged ?_
      rintro (_ | _) hrequest
      · exact ⟨rfl, hused⟩
      · exact absurd hrequest hforce
  | _ => rfl

/-- Objects that are protected survive every run. -/
theorem protected_objects_survive (d : Daemon) (moves : List Move) : Survival d moves where
  toAges := ages_after d moves
  predefined := by
    apply after_eq_of_granted_eq (ofObjects_networks _)
    intro α request earlier later _ _
    apply filter_eq_of_imp _ (call_keeps _ request).sparedNetworks
    intro n hown
    exact sparesNetwork_of_isPredefined hown
  attached := by
    intro id hremoved
    apply after_eq_of_granted_eq (ofObjects_networks _)
    intro α request earlier later hmoves hgrants
    apply filter_eq_of_imp _ (call_keeps _ request).sparedNetworks
    intro n hn
    obtain ⟨hused, rfl⟩ : n.isUsed = true ∧ n.id = id := by simpa using hn
    refine sparesNetwork_of_isUsed hused fun hrequest => ?_
    cases hrequest
    exact hremoved ⟨earlier, later, hmoves, hgrants⟩
  running := by
    intro id hkilled
    apply after_eq_of_granted_eq (ofObjects_containers _)
    intro α request earlier later hmoves hgrants
    apply filter_eq_of_imp _ (call_keeps _ request).sparedContainers
    intro c hc
    obtain ⟨hrunning, rfl⟩ : c.isRunning = true ∧ c.id = id := by simpa using hc
    refine sparesContainer_of_isRunning hrunning fun hrequest => ?_
    cases hrequest
    exact hkilled ⟨earlier, later, hmoves, hgrants⟩
  tagged := by
    intro id hremoved
    apply after_eq_of_granted_eq (ofObjects_images _)
    intro α request earlier later hmoves hgrants
    apply filter_eq_of_imp _ (call_keeps _ request).sparedImages
    intro i hi
    obtain ⟨htagged, rfl⟩ : i.isDangling = false ∧ i.id = id := by simpa using hi
    refine sparesImage_of_not_isDangling htagged fun force hrequest => ?_
    cases hrequest
    exact absurd ⟨earlier, later, hmoves, hgrants⟩ (hremoved force)
  inUse := by
    intro earlier m later id _ hforce
    exact usedImages_move hforce

/-- A container that was never killed keeps running, whatever else is removed. -/
theorem web_container_survives :
    (Sample.daemon.after
        [.call (.removeContainer Sample.webContainerId), .call .removeStopped,
          .call .prune]).containers.filter
            (fun c => c.isRunning && c.id == Sample.webContainerId) =
      [Sample.container Sample.webContainerId "web" "nginx:1.25" true] := by
  refine ((protected_objects_survive Sample.daemon _).running Sample.webContainerId ?_).trans
    rfl
  rintro ⟨earlier, later, hmoves, -⟩
  have hkill : some .kill ∈
      [Move.call (.removeContainer Sample.webContainerId), .call .removeStopped,
        .call .prune].map Move.operation? := by
    rw [hmoves]
    simp [Move.operation?, Request.operation]
  simp [Move.operation?, Request.operation] at hkill

end Daemon

end ContainerBoard
