import ContainerBoard.Proofs.Daemon.NetworkOrder
import ContainerBoard.Proofs.Dashboard.RowUse

/-!
# Opening the selected row

The rows of four lists are opened: those of images and networks by their position, those
of services and nodes in a list that is fetched again.  Opening a row either shows the
object in it on a screen of its own, or reports a failure and changes nothing else.
There is one exception: a list that is fetched again and lacks the row is passed over
in silence.
-/

namespace ContainerBoard

namespace ListScreen

/-- The screen that a row leads to, if rows of the list are opened. -/
def detail? : ListScreen → Option View
  | containers => none
  | images => some .inspectImage
  | networks => some .inspectNetwork
  | services => some .serviceTasks
  | nodes => some .nodeTasks

/-- The operations that it takes to open a row. -/
def openOperations : ListScreen → List Operation
  | containers => []
  | images => [.imageAt, .inspectImage]
  | networks => [.networkAt, .inspectNetwork]
  | services => [.services]
  | nodes => [.nodes]

/-- None of the operations that it takes to open a row is made to fail. -/
def OpeningWorks (s : ListScreen) (d : Daemon) : Prop :=
  ∀ operation ∈ s.openOperations, d.failures.get? operation = none

/-- Whether the daemon is asked for the object in a row by its position. -/
def asksByPosition : ListScreen → Bool
  | services => false
  | nodes => false
  | _ => true

/-- The kind of the objects in a list. -/
def kind : ListScreen → Resource
  | containers => .container
  | images => .image
  | networks => .network
  | services => .service
  | nodes => .node

/-- What is kept of an object that was opened: its record, or its id where its tasks are
listed. -/
def keptIn : (s : ListScreen) → s.Item → Snapshots → Snapshots
  | containers, _, old => old
  | images, i, old => { old with inspectedImage := some (Daemon.detailsOf i) }
  | networks, n, old => { old with inspectedNetwork := some n }
  | services, s, old => { old with service := some s.id }
  | nodes, n, old => { old with node := some n.id }

end ListScreen

namespace Daemon

variable {α : Type}

/-- An object of a list is found by its id, or another one that has the same. -/
theorem exists_objectOf_of_mem
    {items : List α} {item : α} (kind : Resource) (idOf : α → String) (hitem : item ∈ items) :
    ∃ found ∈ items, idOf found = idOf item ∧
      objectOf kind idOf items (idOf item) = .ok found := by
  cases hfind : items.find? fun other => idOf other == idOf item with
  | none =>
      have hnone := List.find?_eq_none.mp hfind item hitem
      simp at hnone
  | some found =>
      refine ⟨found, List.mem_of_find?_eq_some hfind, ?_, objectOf_eq_ok_iff.mpr hfind⟩
      simpa using List.find?_some hfind

end Daemon

namespace Dashboard

variable {ρ : Type}

/-- Nothing that the user looks at changes, and some messages are offered. -/
structure Says (messages : List String) (b b' : Dashboard ρ) : Prop extends Unmoved b b' where
  outbox : b'.outbox = b.outbox.offerAll messages

/-- Something is kept and shown on a screen with one redraw.  All that is not about it
is as before, and nothing is said. -/
structure Opens [Refresh ρ] (screen : View) (change : Snapshots → Snapshots)
    (b b' : Dashboard ρ) : Prop where
  view : b'.navigation.view = screen
  main : b'.navigation.main = b.navigation.main
  sort : b'.navigation.sort = b.navigation.sort
  snapshots : b'.snapshots = change b.snapshots
  cache : b'.cache = b.cache
  report : b'.pruneReport = b.pruneReport
  redraws : b'.redraws = Refresh.refresh b.redraws
  outbox : b'.outbox = b.outbox

theorem says_daemon (b : Dashboard ρ) (d : Daemon) : Says [] b { b with daemon := d } :=
  ⟨b.unmoved_daemon d, rfl⟩

theorem says_say (b : Dashboard ρ) (d : Daemon) (message : String) :
    Says [message] b ({ b with daemon := d }.say message) :=
  ⟨⟨⟨rfl, rfl, rfl, rfl⟩, rfl, rfl, rfl⟩, rfl⟩

theorem says_reportFailure (b : Dashboard ρ) (d : Daemon) (action : String) (error : BoardError) :
    Says [error.userMessage action] b ({ b with daemon := d }.reportFailure action error) :=
  ⟨b.unmoved_reportFailure d action error, rfl⟩

variable [Refresh ρ]

/-- What is shown on a screen that is no main screen can be left again. -/
theorem opens_showView
    (b : Dashboard ρ) (d : Daemon) (change : Snapshots → Snapshots) {screen : View}
    (hscreen : screen.isMain = false) :
    Opens screen change b
      ({ b with daemon := d, snapshots := change b.snapshots }.showView screen) := by
  have hvisit : b.navigation.visit screen = { b.navigation with view := screen } :=
    dif_neg (by simp [hscreen])
  have hmain : (b.navigation.visit screen).main = b.navigation.main := by rw [hvisit]
  have hsort : (b.navigation.visit screen).sort = b.navigation.sort := by rw [hvisit]
  exact ⟨congrArg Navigation.view hvisit, hmain, hsort, rfl, rfl, rfl, rfl, rfl⟩

theorem openDetail_of_ok
    {b : Dashboard ρ} {detail : Detail} {data : detail.Data} {d : Daemon}
    (h : b.daemon.call detail.request = (.ok data, d)) :
    b.openDetail detail =
      { b with daemon := d, snapshots := detail.store data b.snapshots }.showView
        detail.view := by
  unfold openDetail load fetch ask
  rw [h]
  rfl

theorem openDetail_of_error
    {b : Dashboard ρ} {detail : Detail} {error : DaemonError} {d : Daemon}
    (h : b.daemon.call detail.request = (.error error, d)) :
    b.openDetail detail =
      { b with daemon := d }.reportFailure detail.action (.daemon error) := by
  unfold openDetail load fetch ask
  rw [h]
  rfl

theorem openRow_of_ok
    {b : Dashboard ρ} {r : RowDetail} {id : String} {d : Daemon}
    (hid : r.row.objectId b.daemon = (.ok id, d)) :
    b.openRow r = { b with daemon := d }.openDetail (r.detail id) := by
  rw [openRow_eq, onRow_of_ok b hid]

theorem openRow_of_error
    {b : Dashboard ρ} {r : RowDetail} {error : BoardError} {d : Daemon}
    (hid : r.row.objectId b.daemon = (.error error, d)) :
    b.openRow r = { b with daemon := d }.reportFailure r.action error := by
  rw [openRow_eq, onRow_of_error b hid]

/-- A row that is not found is reported. -/
theorem says_openRow_of_error
    {r : RowDetail} {error : BoardError} {d d' : Daemon}
    (hid : r.row.objectId d = (.error error, d')) :
    ∃ message, IsFailure message ∧
      ∀ b : Dashboard ρ, b.daemon = d → Says [message] b (b.openRow r) := by
  refine ⟨_, isFailure_userMessage error r.action, ?_⟩
  intro b hb
  subst hb
  rw [openRow_of_error hid]
  exact says_reportFailure b d' r.action error

/-! ## Rows that the daemon finds -/

/-- A row of a list is opened by finding its object at the daemon, and then asking for the
object by its id. -/
structure OpensBy (s : ListScreen) (row : Nat) (screen : View) (r : RowDetail) : Prop where
  looks : LooksIn s row r.row
  kind : r.row.kind = s.kind
  action : r.action = "inspecting " ++ s.kind.word
  operations : ∀ id,
    s.openOperations = [r.row.call.operation, (r.detail id).request.operation]
  screen : ∀ id, (r.detail id).view = screen
  /-- The daemon has a record of every listed object. -/
  answers : ∀ d : Daemon, ∀ item ∈ s.items d,
    d.failures.get? (r.detail (s.idOf item)).request.operation = none →
      ∃ found ∈ s.items d, s.idOf found = s.idOf item ∧
        ∃ data d', d.call (r.detail (s.idOf item)).request = (.ok data, d') ∧
          (r.detail (s.idOf item)).store data = s.keptIn found

theorem opensBy_images (row : Nat) : OpensBy .images row .inspectImage (.image row) where
  looks := ⟨fun _ => rfl, rfl, rfl⟩
  kind := rfl
  action := rfl
  operations _ := rfl
  screen _ := rfl
  answers d item hitem hworks := by
    obtain ⟨found, hfound, hid, hobject⟩ := Daemon.exists_objectOf_of_mem .image Image.id hitem
    let request : Request ImageDetails := .inspectImage item.id
    have hanswer : (d.record request.call).answer request =
        .ok (Daemon.detailsOf found, d.record request.call) := by
      change Daemon.answerOnly _ ((Daemon.objectOf .image Image.id d.images item.id).map _) = _
      rw [show Daemon.objectOf .image Image.id d.images item.id = _ from hobject]
      rfl
    exact ⟨found, hfound, hid, _, _, Daemon.call_of_answer hworks hanswer, rfl⟩

theorem opensBy_networks (row : Nat) :
    OpensBy .networks row .inspectNetwork (.network row) where
  looks := ⟨fun _ => rfl, rfl, rfl⟩
  kind := rfl
  action := rfl
  operations _ := rfl
  screen _ := rfl
  answers d item hitem hworks := by
    -- the daemon looks among the networks as they are stored
    have hstored := d.orders_sortedNetworks.perm
    obtain ⟨found, hfound, hid, hobject⟩ :=
      Daemon.exists_objectOf_of_mem .network Network.id (hstored.mem_iff.mp hitem)
    let request : Request Network := .inspectNetwork item.id
    have hanswer : (d.record request.call).answer request =
        .ok (found, d.record request.call) := by
      change Daemon.answerOnly _ (Daemon.objectOf .network Network.id d.networks item.id) = _
      rw [hobject]
      rfl
    exact ⟨found, hstored.mem_iff.mpr hfound, hid, _, _,
      Daemon.call_of_answer hworks hanswer, rfl⟩

/-- What becomes of every dashboard on a daemon when the row of a list is opened. -/
structure Entered (s : ListScreen) (screen : View) (row : Nat) (d : Daemon)
    (enter : Dashboard ρ → Dashboard ρ) : Prop where
  /-- The object in the row is shown, if nothing fails. -/
  opened : s.OpeningWorks d → ∀ item, (s.items d)[row]? = some item →
    ∃ found ∈ s.items d, s.idOf found = s.idOf item ∧
      ∀ b, b.daemon = d → Opens screen (s.keptIn found) b (enter b)
  /-- Whatever fails is reported. -/
  reported : ¬ s.OpeningWorks d →
    ∃ message, IsFailure message ∧ ∀ b, b.daemon = d → Says [message] b (enter b)
  /-- A row that the daemon looks for and does not have is reported. -/
  notFound : s.asksByPosition = true → s.LookupWorks d → (s.items d)[row]? = none →
    ∀ b, b.daemon = d →
      Says [(BoardError.resolution s.kind row (.positionOutOfRange s.kind row)).userMessage
        ("inspecting " ++ s.kind.word)] b (enter b)
  /-- A row that a fetched list does not have is passed over. -/
  passedOver : s.asksByPosition = false → s.OpeningWorks d → (s.items d)[row]? = none →
    ∀ b, b.daemon = d → Says [] b (enter b)

variable {s : ListScreen} {screen : View} {row : Nat}

theorem openingWorks_iff
    {r : RowDetail} (hopens : OpensBy s row screen r) (id : String) (d : Daemon) :
    s.OpeningWorks d ↔
      d.failures.get? r.row.call.operation = none ∧
        d.failures.get? (r.detail id).request.operation = none := by
  rw [ListScreen.OpeningWorks, hopens.operations id]
  constructor
  · intro hworks
    exact ⟨hworks _ List.mem_cons_self, hworks _ (List.mem_cons_of_mem _ List.mem_cons_self)⟩
  · rintro ⟨hlookup, hrecord⟩ operation hoperation
    rcases List.mem_pair.mp hoperation with rfl | rfl
    · exact hlookup
    · exact hrecord

/-- A row that is looked up is opened, or what failed is reported. -/
theorem entered_openRow
    {r : RowDetail} (hopens : OpensBy s row screen r) (hscreen : screen.isMain = false)
    (hasks : s.asksByPosition = true) (d : Daemon) :
    Entered s screen row d fun b : Dashboard ρ => b.openRow r := by
  -- how the row is looked up, as long as that works
  have hlookup (hfinds : d.failures.get? r.row.call.operation = none) :=
    ObjectRow.objectId_eq hfinds
  simp only [hopens.looks.ids, hopens.looks.position, List.getElem?_map, hopens.kind]
    at hlookup
  refine ⟨?_, ?_, ?_, ?_⟩
  · intro hworks item hitem
    obtain ⟨hfinds, hrecord⟩ := (openingWorks_iff hopens (s.idOf item) d).mp hworks
    have hid := hlookup hfinds
    rw [hitem] at hid
    have hitems : s.items (d.record r.row.call) = s.items d := by cases s <;> rfl
    have hmem : item ∈ s.items (d.record r.row.call) := hitems ▸ List.mem_of_getElem? hitem
    obtain ⟨found, hfound, hsame, data, d', hcall, hstore⟩ := hopens.answers _ item hmem hrecord
    refine ⟨found, hitems ▸ hfound, hsame, ?_⟩
    intro b hb
    subst hb
    rw [openRow_of_ok hid, openDetail_of_ok hcall, hopens.screen, ← hstore]
    exact opens_showView b d' _ hscreen
  · intro hfails
    cases hfinds : d.failures.get? r.row.call.operation with
    | some error =>
        exact says_openRow_of_error (ObjectRow.objectId_of_failure hfinds)
    | none =>
        have hid := hlookup hfinds
        cases hitem : (s.items d)[row]? with
        | none =>
            rw [hitem] at hid
            exact says_openRow_of_error hid
        | some item =>
            rw [hitem] at hid
            rw [openingWorks_iff hopens (s.idOf item), not_and] at hfails
            obtain ⟨error, hfailure⟩ := Option.ne_none_iff_exists'.mp (hfails hfinds)
            refine ⟨_, isFailure_userMessage (.daemon error) (r.detail (s.idOf item)).action, ?_⟩
            intro b hb
            subst hb
            have hcall := Daemon.call_of_failure (d := b.daemon.record r.row.call) hfailure
            rw [openRow_of_ok hid, openDetail_of_error hcall]
            exact says_reportFailure b _ _ _
  · intro _ hfinds hmissing b hb
    have hid := hlookup (hopens.looks.call ▸ hfinds row)
    rw [hmissing] at hid
    subst hb
    rw [openRow_of_error hid, hopens.action]
    exact says_reportFailure b _ _ _
  · intro hfetched
    rw [hasks] at hfetched
    cases hfetched

/-! ## Rows of a list that is fetched -/

/-- A row of a list that is fetched is opened, if the list has it. -/
theorem entered_openListed
    {what : String} {next : s.Item → Dashboard ρ → Dashboard ρ}
    (hlisting : s.openOperations = [s.listing.operation]) (hasks : s.asksByPosition = false)
    (hnext : ∀ item (b : Dashboard ρ) d,
      Opens screen (s.keptIn item) b (next item { b with daemon := d })) (d : Daemon) :
    Entered s screen row d fun b : Dashboard ρ =>
      openListed (b.fetch s.listing) row what next := by
  have hworks_iff : s.OpeningWorks d ↔ d.failures.get? s.listing.operation = none := by
    rw [ListScreen.OpeningWorks, hlisting]
    exact List.forall_mem_singleton
  refine ⟨?_, ?_, ?_, ?_⟩
  · intro hworks item hitem
    refine ⟨item, List.mem_of_getElem? hitem, rfl, ?_⟩
    intro b hb
    subst hb
    simp only [fetch_listing b (hworks_iff.mp hworks), openListed, hitem]
    exact hnext item b _
  · intro hfails
    rw [hworks_iff] at hfails
    obtain ⟨error, hfailure⟩ := Option.ne_none_iff_exists'.mp hfails
    refine ⟨_, isFailure_userMessage (.daemon error) ("listing " ++ what), ?_⟩
    intro b hb
    subst hb
    rw [fetch_of_failure b hfailure]
    exact says_say b _ _
  · intro hasked
    rw [hasks] at hasked
    cases hasked
  · intro _ hworks hmissing b hb
    subst hb
    simp only [fetch_listing b (hworks_iff.mp hworks), openListed, hmissing]
    exact says_daemon b _

/-- The selected row of every list that has details is opened like this. -/
theorem entered_openSelected (hdetail : s.detail? = some screen) (row : Nat) (d : Daemon) :
    Entered s screen row d fun b : Dashboard ρ => b.openSelected s.view row := by
  cases s with
  | containers => cases hdetail
  | images =>
      cases hdetail
      exact entered_openRow (opensBy_images row) rfl rfl d
  | networks =>
      cases hdetail
      exact entered_openRow (opensBy_networks row) rfl rfl d
  | services =>
      cases hdetail
      exact entered_openListed (s := .services) rfl rfl
        (fun item b d => opens_showView b d (ListScreen.services.keptIn item) rfl) d
  | nodes =>
      cases hdetail
      exact entered_openListed (s := .nodes) rfl rfl
        (fun item b d => opens_showView b d (ListScreen.nodes.keptIn item) rfl) d

/-! ## The command -/

/-- The dashboard after the command that opens the selected row. -/
def enter (cursor : Cursor) (b : Dashboard ρ) : Dashboard ρ :=
  (b.dispatch .openSelected cursor).dashboard

theorem dispatch_openSelected (b : Dashboard ρ) (cursor : Cursor) :
    (b.dispatch .openSelected cursor).result = .ok false ∧
      ∃ lines, b.enter cursor =
        (b.log lines).openSelected b.navigation.view cursor.selected := by
  have hquit : Command.openSelected ≠ .quit := by decide
  exact dispatch_of_execute hquit fun _ => rfl

variable {b : Dashboard ρ} {cursor : Cursor}

/-- What the list says about its selected row is said by the command. -/
theorem unmoved_offers_enter
    {messages : List String} (hview : b.navigation.view = s.view)
    (htells : ∀ b' : Dashboard ρ, b'.daemon = b.daemon →
      Says messages b' (b'.openSelected s.view cursor.selected)) :
    Unmoved b (b.enter cursor) ∧ Offers (enter cursor) b messages := by
  constructor
  · obtain ⟨-, lines, henter⟩ := b.dispatch_openSelected cursor
    rw [henter, hview]
    exact (htells (b.log lines) rfl).toUnmoved.of_log
  · intro box
    obtain ⟨-, lines, henter⟩ := dispatch_openSelected { b with outbox := box } cursor
    rw [henter, hview]
    exact (htells (log { b with outbox := box } lines) rfl).outbox

/-- What the list shows for its selected row is shown by the command. -/
theorem opens_offers_enter
    {change : Snapshots → Snapshots} (hview : b.navigation.view = s.view)
    (hopens : ∀ b' : Dashboard ρ, b'.daemon = b.daemon →
      Opens screen change b' (b'.openSelected s.view cursor.selected)) :
    Opens screen change b (b.enter cursor) ∧ Offers (enter cursor) b [] := by
  constructor
  · obtain ⟨-, lines, henter⟩ := b.dispatch_openSelected cursor
    have hlogged := hopens (b.log lines) rfl
    rw [henter, hview]
    exact ⟨hlogged.view, hlogged.main, hlogged.sort, hlogged.snapshots, hlogged.cache,
      hlogged.report, hlogged.redraws, hlogged.outbox⟩
  · intro box
    obtain ⟨-, lines, henter⟩ := dispatch_openSelected { b with outbox := box } cursor
    rw [henter, hview]
    exact (hopens (log { b with outbox := box } lines) rfl).outbox

/-- The command on the selected row of a list that has details opens the row, or reports a
failure and leaves all that the user looks at as it is.

* If nothing fails and there is an object in the row, the first object that has its id is
  kept, and its screen is shown.
* If anything that it takes fails, that is reported with one message.
* A row that an image or a network is looked for in and not found is reported, too.
* A row that the list of services or nodes does not have is passed over in silence. -/
theorem enter_opens_or_reports
    (hdetail : s.detail? = some screen) (hview : b.navigation.view = s.view)
    (cursor : Cursor) :
    let item? := (s.items b.daemon)[cursor.selected]?
    (b.dispatch .openSelected cursor).result = .ok false ∧
      (s.OpeningWorks b.daemon → ∀ item, item? = some item →
        ∃ found ∈ s.items b.daemon, s.idOf found = s.idOf item ∧
          Opens screen (s.keptIn found) b (b.enter cursor) ∧ Offers (enter cursor) b []) ∧
      (¬ s.OpeningWorks b.daemon →
        ∃ message, IsFailure message ∧
          Unmoved b (b.enter cursor) ∧ Offers (enter cursor) b [message]) ∧
      (s.asksByPosition = true → s.LookupWorks b.daemon → item? = none →
        let error : BoardError :=
          .resolution s.kind cursor.selected (.positionOutOfRange s.kind cursor.selected)
        Unmoved b (b.enter cursor) ∧
          Offers (enter cursor) b [error.userMessage ("inspecting " ++ s.kind.word)]) ∧
      (s.asksByPosition = false → s.OpeningWorks b.daemon → item? = none →
        Unmoved b (b.enter cursor) ∧ Offers (enter cursor) b []) := by
  intro item?
  have hentered : Entered s screen cursor.selected b.daemon fun b' : Dashboard ρ =>
      b'.openSelected s.view cursor.selected :=
    entered_openSelected hdetail cursor.selected b.daemon
  obtain ⟨hopened, hreported, hnotFound, hpassedOver⟩ := hentered
  refine ⟨(b.dispatch_openSelected cursor).1, ?_, ?_, ?_, ?_⟩
  · intro hworks item hitem
    obtain ⟨found, hfound, hsame, hopens⟩ := hopened hworks item hitem
    exact ⟨found, hfound, hsame, opens_offers_enter hview hopens⟩
  · intro hfails
    obtain ⟨message, hfailure, htells⟩ := hreported hfails
    exact ⟨message, hfailure, unmoved_offers_enter hview htells⟩
  · intro hasks hfinds hmissing
    exact unmoved_offers_enter hview (hnotFound hasks hfinds hmissing)
  · intro hasks hworks hmissing
    exact unmoved_offers_enter hview (hpassedOver hasks hworks hmissing)

/-- The second of the sample images is opened. -/
theorem second_image_opened :
    ∃ (b : Dashboard RedrawCount) (found : Image),
      start Sample.daemon default {} = .ok b ∧
        let b := (b.dispatch .showImages {}).dashboard
        ListScreen.images.detail? = some .inspectImage ∧
          b.navigation.view = ListScreen.images.view ∧
          found.tags = ["postgres:16"] ∧
          Opens .inspectImage (ListScreen.images.keptIn found) b
            (b.enter { selected := 1, rows := 5 }) := by
  obtain ⟨b, hstart⟩ : ∃ b : Dashboard RedrawCount, start Sample.daemon default {} = .ok b :=
    ⟨_, rfl⟩
  let b' := (b.dispatch .showImages {}).dashboard
  have hview : b'.navigation.view = ListScreen.images.view := by
    cases hstart
    rfl
  have hitems : ListScreen.images.items b'.daemon = Sample.images := by
    cases hstart
    rfl
  have hworks : ListScreen.images.OpeningWorks b'.daemon := by
    intro operation _
    cases hstart
    rfl
  obtain ⟨-, hopened, -⟩ := enter_opens_or_reports rfl hview { selected := 1, rows := 5 }
  rw [hitems] at hopened
  obtain ⟨found, hfound, hsame, hopens, -⟩ := hopened hworks _ rfl
  have htags : ∀ i ∈ Sample.images, i.id = Sample.images[1].id → i.tags = ["postgres:16"] := by
    decide
  exact ⟨b, found, hstart, rfl, hview, htags found hfound hsame, hopens⟩

/-- Without any services there is no row to open, and nobody is told. -/
theorem missing_service_passed_over :
    ∃ b : Dashboard RedrawCount,
      start {} default {} = .ok b ∧
        let b := (b.dispatch .showServices {}).dashboard
        b.navigation.view = .services ∧
          ¬ ((∃ item, Opens .serviceTasks (ListScreen.services.keptIn item) b (b.enter {})) ∨
              ∃ message, IsFailure message ∧ Offers (enter {}) b [message]) := by
  obtain ⟨b, hstart⟩ : ∃ b : Dashboard RedrawCount, start {} default {} = .ok b := ⟨_, rfl⟩
  let b' := (b.dispatch .showServices {}).dashboard
  have hview : b'.navigation.view = .services := by
    cases hstart
    rfl
  have hstays : (b'.enter {}).navigation.view = .services := by
    cases hstart
    rfl
  have hsilent : Offers (enter {}) b' [] := by
    intro box
    cases hstart
    rfl
  refine ⟨b, hstart, hview, ?_⟩
  rintro (⟨item, hopens⟩ | ⟨message, -, hoffers⟩)
  · have hshown := hopens.view
    rw [hstays] at hshown
    cases hshown
  · cases hoffers.unique hsilent

end Dashboard

end ContainerBoard
