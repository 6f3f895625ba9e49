import ContainerBoard.Proofs.Dashboard.RowUse
import ContainerBoard.Screen.Body
import Mathlib.Data.List.Permutation

/-!
# The snapshot of the network list

While the networks cannot be listed, their screen shows the list that was fetched
last.  A row of that list is still looked up by its position in the list of now.
So the network that is shown there is acted on only if no other one has taken its
row since.
-/

namespace ContainerBoard

namespace Daemon

/-- The removal of a network keeps those with other ids. -/
theorem mem_networks_call_removeNetwork
    {d : Daemon} {id : String} {n : Network} (hn : n ∈ d.networks) (hid : n.id ≠ id) :
    n ∈ (d.call (.removeNetwork id)).2.networks := by
  rcases h : d.call (.removeNetwork id) with ⟨error | ⟨⟩, d'⟩
  · rw [call_error h]
    exact hn
  · obtain ⟨removed, -, hremove⟩ := exists_of_bind_ok (call_ok h)
    split at hremove
    · cases hremove
    · cases hremove
      have hkept : ¬ (n.id == id) = true := by
        simpa using hid
      exact (List.mem_eraseP_of_neg (p := fun n => n.id == id) hkept).mpr hn

theorem id_of_call_inspectNetwork
    {d d' : Daemon} {id : String} {n : Network}
    (h : d.call (.inspectNetwork id) = (.ok n, d')) : n.id = id := by
  obtain ⟨hobject, -⟩ := answerOnly_ok (call_ok h)
  unfold objectOf at hobject
  split at hobject
  · rename_i found hfind
    cases hobject
    simpa using List.find?_some hfind
  · cases hobject

theorem networks_call_inspectNetwork (d : Daemon) (id : String) :
    (d.call (.inspectNetwork id)).2.networks = d.networks := by
  rcases h : d.call (.inspectNetwork id) with ⟨error | n, d'⟩
  · rw [call_error h]
    rfl
  · rw [(answerOnly_ok (call_ok h)).2]
    rfl

end Daemon

namespace Dashboard

variable {ρ : Type}

/-- The networks cannot be listed, and those that were fetched last are shown
instead. -/
structure ShowsSnapshot (ns : List Network) (b : Dashboard ρ) : Prop where
  view : b.navigation.view = .networks
  snapshot : b.snapshots.networks = some ns
  failing : ∃ error, b.daemon.failures.get? .networks = some error

theorem body_of_showsSnapshot {ns : List Network} {b : Dashboard ρ}
    (h : ShowsSnapshot ns b) :
    ∃ lines, b.body =
      (.list (ns.map Row.network),
        { b with daemon := b.daemon.record Request.networks.call }.log lines) := by
  obtain ⟨error, hfailing⟩ := h.failing
  have hcall : b.daemon.call .networks = (.error error, b.daemon.record Request.networks.call) :=
    Daemon.call_of_failure hfailing
  unfold body
  rw [h.view]
  simp only [networksBody, fetch, ask, hcall, Except.mapError, h.snapshot]
  exact ⟨_, rfl⟩

/-- No network is removed or opened but one with an id. -/
structure SparesOthers (id : String) (b b' : Dashboard ρ) : Prop where
  kept : ∀ n ∈ b.daemon.networks, n.id ≠ id → n ∈ b'.daemon.networks
  opened : ∀ n, b'.snapshots.inspectedNetwork = some n →
    b.snapshots.inspectedNetwork = some n ∨ n.id = id

/-- The id of a network is passed to the daemon after its row was looked up, or a
failure is reported and nothing changes.  In no case is another network removed or
opened. -/
structure ActsOnNetwork
    (operation : Operation) (row : Nat) (id : String) (b b' : Dashboard ρ) : Prop
    extends SparesOthers id b b' where
  named_or_refused :
    b'.daemon.calls = ⟨operation, .object id⟩ :: ⟨.networkAt, .row row⟩ :: b.daemon.calls ∨
      (b'.daemon.networks = b.daemon.networks ∧ Unmoved b b' ∧
        ∃ message, IsFailure message ∧ b'.outbox = b.outbox.offerAll [message])

theorem ActsOnNetwork.of_log
    {operation : Operation} {row : Nat} {id : String} {b b' : Dashboard ρ}
    {lines : List LogLine} (h : ActsOnNetwork operation row id (b.log lines) b') :
    ActsOnNetwork operation row id b b' where
  kept := h.kept
  opened := h.opened
  named_or_refused := by
    rcases h.named_or_refused with hcalls | ⟨hnetworks, hunmoved, hmessage⟩
    · exact .inl hcalls
    · exact .inr ⟨hnetworks, hunmoved.of_log, hmessage⟩

/-- The network in a row is acted on, if no other one has that row. -/
theorem actsOnNetwork_onRow
    {operation : Operation} {row : Nat} {id action : String}
    {next : String → Dashboard ρ → Dashboard ρ} {b : Dashboard ρ}
    (hworks : b.daemon.failures.get? .networkAt = none)
    (hrow : ∀ n, b.daemon.sortedNetworks[row]? = some n → n.id = id)
    (hmakes : ∀ b, Makes ⟨operation, .object id⟩ b (next id b))
    (hspares : ∀ b, SparesOthers id b (next id b)) :
    ActsOnNetwork operation row id b (b.onRow (.network row) action next) := by
  have hid : (ObjectRow.network row).objectId b.daemon = _ := ObjectRow.objectId_eq hworks
  rw [ObjectRow.ids, ObjectRow.position, List.getElem?_map] at hid
  cases hnetwork : b.daemon.sortedNetworks[row]? with
  | some n =>
      rw [hnetwork, Option.map_some, hrow n hnetwork] at hid
      rw [onRow_of_ok b hid]
      have hcalls := (hmakes { b with daemon := b.daemon.record ⟨.networkAt, .row row⟩ }).calls
      obtain ⟨hkept, hopened⟩ :=
        hspares { b with daemon := b.daemon.record ⟨.networkAt, .row row⟩ }
      exact ⟨⟨hkept, hopened⟩, .inl hcalls⟩
  | none =>
      rw [hnetwork] at hid
      rw [onRow_of_error b hid]
      refine ⟨⟨fun n hn _ => hn, fun n hn => .inl hn⟩, .inr ⟨rfl, ?_, ?_⟩⟩
      · exact unmoved_reportFailure b _ action _
      · exact ⟨_, isFailure_userMessage _ action, rfl⟩

variable [Refresh ρ]

theorem sparesOthers_removeNetwork (b : Dashboard ρ) (id : String) :
    SparesOthers id b (b.performNow (.removeNetwork id)) := by
  have hm : Mutation.removeNetwork id ≠ .prune := Mutation.noConfusion
  obtain ⟨hdaemon, hsnapshots⟩ := performNow_frame b hm
  constructor
  · intro n hn hid
    rw [hdaemon]
    exact Daemon.mem_networks_call_removeNetwork hn hid
  · intro n hn
    rw [hsnapshots] at hn
    exact .inl hn

theorem sparesOthers_openNetwork (b : Dashboard ρ) (id : String) :
    SparesOthers id b (b.openDetail (.network id)) := by
  constructor
  · intro n hn _
    rw [daemon_openDetail]
    change n ∈ (b.daemon.call (.inspectNetwork id)).2.networks
    rw [Daemon.networks_call_inspectNetwork]
    exact hn
  · intro n hn
    rw [snapshots_openDetail] at hn
    rcases h : b.daemon.call (Detail.network id).request with ⟨error | found, d⟩
    · rw [h] at hn
      exact .inl hn
    · rw [h] at hn
      cases hn
      exact .inr (Daemon.id_of_call_inspectNetwork h)

theorem actsOnNetwork_execute
    {command : Command} {operation : Operation} {row : Nat} {id : String} {b : Dashboard ρ}
    (huse : ListScreen.networks.use? command = some (.passed operation))
    (hworks : b.daemon.failures.get? .networkAt = none)
    (hrow : ∀ n, b.daemon.sortedNetworks[row]? = some n → n.id = id) :
    (b.execute command .networks row).1 = .ok () ∧
      ActsOnNetwork operation row id b (b.execute command .networks row).2 := by
  cases command with
  | remove =>
      cases huse
      refine ⟨rfl, ?_⟩
      change ActsOnNetwork _ _ _ b (b.performRow (.removeNetwork row))
      rw [performRow_eq]
      apply actsOnNetwork_onRow hworks hrow
      · exact fun b => makes_performNow b (RowMutation.mutation_ne_prune (.removeNetwork row) id)
      · exact fun b => sparesOthers_removeNetwork b id
  | openSelected =>
      cases huse
      refine ⟨rfl, ?_⟩
      change ActsOnNetwork _ _ _ b (b.openRow (.network row))
      rw [openRow_eq]
      apply actsOnNetwork_onRow hworks hrow
      · exact fun b => makes_openDetail b (.network id)
      · exact fun b => sparesOthers_openNetwork b id
  | _ => cases huse

theorem actsOnNetwork_dispatch
    {command : Command} {operation : Operation} {id : String} {b : Dashboard ρ}
    {cursor : Cursor}
    (huse : ListScreen.networks.use? command = some (.passed operation))
    (hview : b.navigation.view = .networks)
    (hworks : b.daemon.failures.get? .networkAt = none)
    (hrow : ∀ n, b.daemon.sortedNetworks[cursor.selected]? = some n → n.id = id) :
    ActsOnNetwork operation cursor.selected id b (b.dispatch command cursor).dashboard := by
  have hquit : command ≠ .quit := by
    rintro rfl
    cases huse
  have hexecute (lines : List LogLine) :=
    actsOnNetwork_execute (b := b.log lines) huse hworks hrow
  rw [← hview] at hexecute
  obtain ⟨-, lines, hdashboard⟩ := dispatch_of_execute hquit fun lines => (hexecute lines).1
  rw [hdashboard]
  exact (hexecute lines).2.of_log

/-- While the networks cannot be listed, removing or opening the network in a row
of the snapshot does that to the network that is shown there, or reports a failure,
as long as no other network has come to stand in that row. -/
theorem snapshot_row_acted_on
    (b : Dashboard ρ) (ns : List Network) (hshows : ShowsSnapshot ns b)
    (hworks : b.daemon.failures.get? .networkAt = none)
    (cursor : Cursor) (shown : Network) (hshown : ns[cursor.selected]? = some shown)
    (hrow : ∀ n, b.daemon.sortedNetworks[cursor.selected]? = some n → n.id = shown.id) :
    b.body.1 = .list (ns.map Row.network) ∧
      b.body.1.lines[cursor.selected]? = some (Row.network shown) ∧
      ∀ command operation, ListScreen.networks.use? command = some (.passed operation) →
        ActsOnNetwork operation cursor.selected shown.id b.body.2
          (b.body.2.dispatch command cursor).dashboard := by
  obtain ⟨lines, hbody⟩ := body_of_showsSnapshot hshows
  rw [hbody]
  refine ⟨rfl, ?_, ?_⟩
  · change (ns.map Row.network)[cursor.selected]? = _
    rw [List.getElem?_map, hshown]
    rfl
  · intro command operation huse
    exact actsOnNetwork_dispatch huse hshows.view hworks hrow

/-! ## A snapshot that is out of date -/

/-- Whatever is shown, it is the network that stands in the row now which is
removed. -/
theorem daemon_dispatch_remove
    {b : Dashboard ρ} {cursor : Cursor} {n : Network} (hview : b.navigation.view = .networks)
    (hworks : b.daemon.failures.get? .networkAt = none)
    (hn : b.daemon.sortedNetworks[cursor.selected]? = some n) :
    (b.dispatch .remove cursor).dashboard.daemon =
      ((b.daemon.record ⟨.networkAt, .row cursor.selected⟩).call (.removeNetwork n.id)).2 := by
  have hexecute (lines : List LogLine) :
      (b.log lines).execute .remove b.navigation.view cursor.selected =
        (.ok (), (b.log lines).performRow (.removeNetwork cursor.selected)) := by
    rw [hview]
    rfl
  obtain ⟨-, lines, hdashboard⟩ :=
    dispatch_of_execute (by decide) fun lines => congrArg Prod.fst (hexecute lines)
  have hid : (ObjectRow.network cursor.selected).objectId b.daemon = _ :=
    ObjectRow.objectId_eq hworks
  rw [ObjectRow.ids, ObjectRow.position, List.getElem?_map, hn] at hid
  have hm : Mutation.removeNetwork n.id ≠ .prune := Mutation.noConfusion
  have hperform : (b.log lines).performRow (.removeNetwork cursor.selected) =
      { b.log lines with
        daemon := b.daemon.record ⟨.networkAt, .row cursor.selected⟩ }.performNow
          (.removeNetwork n.id) := by
    rw [performRow_eq]
    exact onRow_of_ok (b.log lines) hid
  rw [hdashboard, hexecute, hperform]
  exact (performNow_frame _ hm).1

/-- A network whose name comes last. -/
def zeta : Network := { id := "net-a", name := "zeta" }

/-- A network whose name comes first. -/
def alpha : Network := { id := "net-b", name := "alpha" }

/-- The dashboard from when on its daemon cannot list the networks. -/
def unlisted (b : Dashboard ρ) : Dashboard ρ :=
  { b with daemon := b.daemon.fail .networks (.unavailable "down") }

/-- Right after the list was fetched, its first row is the network to remove. -/
theorem first_row_removed :
    ∃ b₀ : Dashboard RedrawCount,
      start { networks := [zeta, alpha] } default {} = .ok b₀ ∧
        let b := (b₀.openDetail .networks).unlisted
        ShowsSnapshot [zeta, alpha] b ∧
          b.daemon.failures.get? .networkAt = none ∧
          (∀ n, b.daemon.sortedNetworks[0]? = some n → n.id = zeta.id) ∧
          ActsOnNetwork .removeNetwork 0 zeta.id b.body.2
            (b.body.2.dispatch .remove default).dashboard := by
  refine ⟨_, rfl, ?_⟩
  intro b
  have hshows : ShowsSnapshot [zeta, alpha] b := by
    refine ⟨rfl, ?_, _, rfl⟩
    cbv
  have hrow : ∀ n, b.daemon.sortedNetworks[0]? = some n → n.id = zeta.id := by
    have hfirst : b.daemon.sortedNetworks[0]? = some zeta := by cbv
    intro n hn
    rw [hfirst] at hn
    cases hn
    rfl
  refine ⟨hshows, rfl, hrow, ?_⟩
  exact (snapshot_row_acted_on b _ hshows rfl default zeta rfl hrow).2.2 .remove _ rfl

/-- After the order changed, the network that is shown in the first row is not the
one that is removed. -/
theorem other_network_removed :
    ∃ b₀ : Dashboard RedrawCount,
      start { networks := [zeta, alpha] } default {} = .ok b₀ ∧
        let b := (b₀.openDetail .networks).sortNetworks.unlisted
        ShowsSnapshot [zeta, alpha] b ∧
          (∀ operation, operation ≠ .networks → b.daemon.failures.get? operation = none) ∧
          b.body.1.lines[0]? = some (Row.network zeta) ∧
          ¬ ActsOnNetwork .removeNetwork 0 zeta.id b.body.2
            (b.body.2.dispatch .remove default).dashboard := by
  refine ⟨_, rfl, ?_⟩
  intro b
  have hshows : ShowsSnapshot [zeta, alpha] b := by
    refine ⟨rfl, ?_, _, rfl⟩
    cbv
  have hworks : ∀ operation, operation ≠ .networks →
      b.daemon.failures.get? operation = none := by
    intro operation hoperation
    change (KeyTable.empty.insert Operation.networks _).get? operation = none
    rw [KeyTable.get?_insert, if_neg (Ne.symm hoperation)]
    rfl
  -- the snapshot is sorted by id, the list of now by name
  have hfirst : b.daemon.sortedNetworks[0]? = some alpha := by cbv
  obtain ⟨lines, hbody⟩ := body_of_showsSnapshot hshows
  have hleft : (b.body.2.dispatch .remove default).dashboard.daemon.networks = [zeta] := by
    have hview : b.body.2.navigation.view = .networks := by
      rw [hbody]
      exact hshows.view
    have hlookup : b.body.2.daemon.failures.get? .networkAt = none := by
      rw [hbody]
      exact hworks .networkAt (by decide)
    have hrow : b.body.2.daemon.sortedNetworks[0]? = some alpha := by
      rw [hbody]
      exact hfirst
    rw [daemon_dispatch_remove hview hlookup hrow, hbody]
    rfl
  refine ⟨hshows, hworks, ?_, ?_⟩
  · rw [hbody]
    rfl
  · intro hacts
    have halpha : alpha ∈ [zeta] := by
      rw [← hleft]
      refine hacts.kept alpha ?_ (by decide)
      rw [hbody]
      exact List.mem_cons_of_mem zeta List.mem_cons_self
    revert halpha
    decide

end Dashboard

end ContainerBoard
