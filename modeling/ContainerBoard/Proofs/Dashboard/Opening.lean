import ContainerBoard.Daemon.Sample
import ContainerBoard.Proofs.Dashboard.Observation
import ContainerBoard.Proofs.Dashboard.Query

/-!
# Opening detail screens

A detail screen is opened for an object, or for the object in a row.  Either
all requests that this takes succeed, and then what the daemon answered is
shown, or nothing that the user sees changes and the failure is reported.
-/

namespace ContainerBoard

/-- What was fetched for a screen. -/
inductive Snapshot where
  | history (layers : List ImageLayer)
  | image (details : ImageDetails)
  | network (n : Network)
  | networks (ns : List Network)
  | host (h : Host)
  deriving DecidableEq

namespace Snapshot

def screen : Snapshot → View
  | history _ => .imageHistory
  | image _ => .inspectImage
  | network _ => .inspectNetwork
  | networks _ => .networks
  | host _ => .info

/-- The snapshots with it in its place. -/
def keptIn (s : Snapshots) : Snapshot → Snapshots
  | history layers => { s with imageHistory := some layers }
  | image details => { s with inspectedImage := some details }
  | network n => { s with inspectedNetwork := some n }
  | networks ns => { s with networks := some ns }
  | host h => { s with host := some h }

end Snapshot

/-- What the daemon is asked for a detail. -/
def Detail.query : Detail → Query Snapshot
  | .history id => .history <$> .ask (.history id)
  | .image id => .image <$> .ask (.inspectImage id)
  | .network id => .network <$> .ask (.inspectNetwork id)
  | .networks => .networks <$> .ask .networks
  | .host => .host <$> .ask .info

namespace RowDetail

def row : RowDetail → ObjectRow
  | history position => .image position
  | image position => .image position
  | network position => .network position

def detail : RowDetail → String → Detail
  | history _, id => .history id
  | image _, id => .image id
  | network _, id => .network id

/-- What a failure to find the object is reported as. -/
def action : RowDetail → String
  | history _ => "getting image history"
  | image _ => "inspecting image"
  | network _ => "inspecting network"

end RowDetail

/-- An operation that fetches something and shows it. -/
inductive Opening where
  | detail (detail : Detail)
  | row (r : RowDetail)
  deriving DecidableEq

namespace Opening

/-- What the daemon is asked: for an object, after it was found if it is given
by its row. -/
def query : Opening → Query Snapshot
  | .detail d => d.query
  | .row r => do (r.detail (← r.row.objectId)).query

theorem query_row (r : RowDetail) (d : Daemon) :
    (Opening.row r).query d =
      match r.row.objectId d with
      | (.ok id, d) => (r.detail id).query d
      | (.error error, d) => (.error error, d) := by
  rw [query, Query.bind_eq]
  rcases r.row.objectId d with ⟨error | id, d'⟩ <;> rfl

/-- What a failure is reported as, by the daemon that is asked. -/
def action : Opening → Daemon → String
  | .detail opened, _ => opened.action
  | .row r, d =>
    match r.row.objectId d with
    | (.ok id, _) => (r.detail id).action
    | (.error _, _) => r.action

/-- Does the operation.  Only the host is shown to a caller that wants to know
of a failure. -/
def run {ρ : Type} [Refresh ρ] (b : Dashboard ρ) :
    Opening → Except BoardError Unit × Dashboard ρ
  | .detail .host => b.load .host
  | .detail d => (.ok (), b.openDetail d)
  | .row r => (.ok (), b.openRow r)

theorem run_detail
    {ρ : Type} [Refresh ρ] {d : Detail} (hhost : d ≠ .host) (b : Dashboard ρ) :
    (Opening.detail d).run b = (.ok (), b.openDetail d) := by
  cases d with
  | host => exact absurd rfl hhost
  | _ => rfl

end Opening

namespace Dashboard

variable {ρ : Type}

/-! ## What the user sees -/

/-- What was fetched is shown, and one redraw was asked for.  All that is not
about it is as before; the screen to go back to changes only if the screen
shown is itself such a screen. -/
structure Shows [Refresh ρ] (s : Snapshot) (b b' : Dashboard ρ) : Prop where
  view : b'.navigation.view = s.screen
  main : b'.navigation.main = if s.screen = .networks then .networks else b.navigation.main
  sort : b'.navigation.sort = b.navigation.sort
  snapshots : b'.snapshots = s.keptIn b.snapshots
  cache : b'.cache = b.cache
  report : b'.pruneReport = b.pruneReport
  redraws : b'.redraws = Refresh.refresh b.redraws

/-! ## What the operations do -/

variable [Refresh ρ]

/-- How a detail is loaded whose query asks for the data of its request. -/
theorem load_of_query
    (b : Dashboard ρ) (detail : Detail) (snapshot : detail.Data → Snapshot)
    (hquery : detail.query = snapshot <$> Query.ask detail.request)
    (hscreen : ∀ data, (snapshot data).screen = detail.view)
    (hkept : ∀ data s, (snapshot data).keptIn s = detail.store data s) :
    b.load detail =
      match detail.query b.daemon with
      | (.ok s, d) =>
        (.ok (), { b with daemon := d, snapshots := s.keptIn b.snapshots }.showView s.screen)
      | (.error error, d) => (.error error, { b with daemon := d }) := by
  rw [hquery, Query.map_eq]
  unfold load fetch ask Query.ask
  rcases b.daemon.call detail.request with ⟨error | data, d⟩
  · rfl
  · simp only [Except.map, Except.mapError, hscreen, hkept]

/-- What loading a detail does is said by what the daemon is asked. -/
theorem load_eq (b : Dashboard ρ) (detail : Detail) :
    b.load detail =
      match detail.query b.daemon with
      | (.ok s, d) =>
        (.ok (), { b with daemon := d, snapshots := s.keptIn b.snapshots }.showView s.screen)
      | (.error error, d) => (.error error, { b with daemon := d }) := by
  cases detail with
  | history id => exact load_of_query b _ .history rfl (fun _ => rfl) (fun _ _ => rfl)
  | image id => exact load_of_query b _ .image rfl (fun _ => rfl) (fun _ _ => rfl)
  | network id => exact load_of_query b _ .network rfl (fun _ => rfl) (fun _ _ => rfl)
  | networks => exact load_of_query b _ .networks rfl (fun _ => rfl) (fun _ _ => rfl)
  | host => exact load_of_query b _ .host rfl (fun _ => rfl) (fun _ _ => rfl)

theorem openDetail_eq (b : Dashboard ρ) (detail : Detail) :
    b.openDetail detail =
      match detail.query b.daemon with
      | (.ok s, d) =>
        { b with daemon := d, snapshots := s.keptIn b.snapshots }.showView s.screen
      | (.error error, d) => { b with daemon := d }.reportFailure detail.action error := by
  unfold openDetail
  rw [load_eq]
  rcases detail.query b.daemon with ⟨error | s, d⟩ <;> rfl

theorem openRow_eq (b : Dashboard ρ) (r : RowDetail) :
    b.openRow r = b.onRow r.row r.action fun id b => b.openDetail (r.detail id) := by
  cases r with
  | history position => exact withRow_imageIdAt b position _ _
  | image position => exact withRow_imageIdAt b position _ _
  | network position => exact withRow_networkIdAt b position _ _

/-- An opening whose query finds something shows it. -/
theorem run_of_ok
    {op : Opening} (b : Dashboard ρ) {s : Snapshot} {d : Daemon}
    (h : op.query b.daemon = (.ok s, d)) :
    op.run b =
      (.ok (),
        { b with daemon := d, snapshots := s.keptIn b.snapshots }.showView s.screen) := by
  cases op with
  | detail detail =>
      have hdetail : detail.query b.daemon = (.ok s, d) := h
      by_cases hhost : detail = .host
      · subst hhost
        change b.load .host = _
        rw [load_eq, hdetail]
      · rw [Opening.run_detail hhost, openDetail_eq, hdetail]
  | row r =>
      change (Except.ok (), b.openRow r) = _
      rw [Opening.query_row] at h
      rcases hrow : r.row.objectId b.daemon with ⟨error | id, d'⟩
      · rw [hrow] at h
        cases congrArg Prod.fst h
      · rw [hrow] at h
        have hdetail : (r.detail id).query d' = (.ok s, d) := h
        rw [openRow_eq, onRow_of_ok b hrow, openDetail_eq, hdetail]

/-- An opening whose query fails reports that, except for the host. -/
theorem run_of_error
    {op : Opening} (b : Dashboard ρ) {error : BoardError} {d : Daemon}
    (h : op.query b.daemon = (.error error, d)) (hop : op ≠ .detail .host) :
    op.run b =
      (.ok (), { b with daemon := d }.reportFailure (op.action b.daemon) error) := by
  cases op with
  | detail detail =>
      have hdetail : detail.query b.daemon = (.error error, d) := h
      have hhost : detail ≠ .host := fun hhost => hop (congrArg Opening.detail hhost)
      rw [Opening.run_detail hhost, openDetail_eq, hdetail]
      rfl
  | row r =>
      change (Except.ok (), b.openRow r) = _
      rw [Opening.query_row] at h
      rcases hrow : r.row.objectId b.daemon with ⟨cause | id, d'⟩
      · rw [hrow] at h
        cases h
        have haction : (Opening.row r).action b.daemon = r.action := by
          simp [Opening.action, hrow]
        rw [openRow_eq, onRow_of_error b hrow, haction]
      · rw [hrow] at h
        have hdetail : (r.detail id).query d' = (.error error, d) := h
        have haction : (Opening.row r).action b.daemon = (r.detail id).action := by
          simp [Opening.action, hrow]
        rw [openRow_eq, onRow_of_ok b hrow, openDetail_eq, hdetail, haction]

/-- A failure to load the host is given back. -/
theorem run_host_of_error
    (b : Dashboard ρ) {error : BoardError} {d : Daemon}
    (h : (Opening.detail .host).query b.daemon = (.error error, d)) :
    (Opening.detail .host).run b = (.error error, { b with daemon := d }) := by
  have hdetail : Detail.host.query b.daemon = (.error error, d) := h
  change b.load .host = _
  rw [load_eq, hdetail]

/-! ## All or nothing -/

theorem shows_showView (b : Dashboard ρ) (d : Daemon) (s : Snapshot) :
    Shows s b
      ({ b with daemon := d, snapshots := s.keptIn b.snapshots }.showView s.screen) where
  view := by cases s <;> rfl
  main := by cases s <;> rfl
  sort := by cases s <;> rfl
  snapshots := rfl
  cache := rfl
  report := rfl
  redraws := rfl

/-- Opening a detail screen is all or nothing.  If every request that it takes
succeeds, what the daemon answered is shown with one redraw and nothing is said.
If any fails, nothing that the user sees changes, no redraw is asked for, and
one failure report is offered; only about the host the failure is given back
instead.  Where no object is found in a row, nothing else is asked. -/
theorem opening_allOrNothing (op : Opening) (b : Dashboard ρ) :
    (match op.query b.daemon with
      | (.ok s, d) =>
        (op.run b).1 = .ok () ∧ (op.run b).2.daemon = d ∧ Shows s b (op.run b).2 ∧
          Offers (fun b => (op.run b).2) b []
      | (.error error, d) =>
        (op.run b).2.daemon = d ∧ Unmoved b (op.run b).2 ∧
          if op = .detail .host then
            (op.run b).1 = .error error ∧ Offers (fun b => (op.run b).2) b []
          else
            (op.run b).1 = .ok () ∧
              ∃ message, IsFailure message ∧
                Offers (fun b => (op.run b).2) b [message]) ∧
    (∀ r error d, op = .row r → r.row.objectId b.daemon = (.error error, d) →
      (op.run b).2.daemon = b.daemon.record r.row.call ∧
        Offers (fun b => (op.run b).2) b [error.userMessage r.action]) := by
  constructor
  · rcases h : op.query b.daemon with ⟨error | s, d⟩
    · by_cases hop : op = .detail .host
      · subst hop
        have hrun := run_host_of_error b h
        refine ⟨?_, ?_, ?_⟩
        · rw [hrun]
        · rw [hrun]
          exact unmoved_daemon b d
        · rw [if_pos rfl, hrun]
          refine ⟨rfl, ?_⟩
          intro box
          exact congrArg (fun r => r.2.outbox) (run_host_of_error { b with outbox := box } h)
      · have hrun := run_of_error b h hop
        refine ⟨?_, ?_, ?_⟩
        · rw [hrun]
          rfl
        · rw [hrun]
          exact unmoved_reportFailure b d _ error
        · rw [if_neg hop, hrun]
          refine ⟨rfl, _, isFailure_userMessage error (op.action b.daemon), ?_⟩
          intro box
          exact congrArg (fun r => r.2.outbox) (run_of_error { b with outbox := box } h hop)
    · have hrun := run_of_ok b h
      refine ⟨?_, ?_, ?_, ?_⟩
      · rw [hrun]
      · rw [hrun]
        rfl
      · rw [hrun]
        exact shows_showView b d s
      · intro box
        exact congrArg (fun r => r.2.outbox) (run_of_ok { b with outbox := box } h)
  · rintro r error d rfl hrow
    have hrun : (fun b : Dashboard ρ => ((Opening.row r).run b).2) =
        fun b => b.onRow r.row r.action fun id b => b.openDetail (r.detail id) := by
      funext b
      exact openRow_eq b r
    obtain ⟨hdaemon, -, hoffers⟩ := onRow_notFound hrow
    rw [hrun]
    refine ⟨?_, hoffers⟩
    rw [← hdaemon]
    exact congrArg Dashboard.daemon (openRow_eq b r)

/-- A dashboard that was just opened reports that there is no image in a row. -/
theorem missing_image_after_start_reported :
    ∃ (b : Dashboard RedrawCount) (error : BoardError) (d : Daemon),
      start Sample.daemon default {} = .ok b ∧
        (RowDetail.image 99).row.objectId b.daemon = (.error error, d) ∧
        ((Opening.row (.image 99)).run b).2.daemon =
          b.daemon.record ⟨.imageAt, .row 99⟩ ∧
        Offers (fun b => ((Opening.row (.image 99)).run b).2) b
          [error.userMessage "inspecting image"] := by
  refine ⟨_, _, _, rfl, rfl, ?_⟩
  exact (opening_allOrNothing (.row (.image 99)) _).2 (.image 99) _ _ rfl rfl

end Dashboard

end ContainerBoard
