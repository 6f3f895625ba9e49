import ContainerBoard.Proofs.Daemon.NetworkOrder
import ContainerBoard.Proofs.Daemon.Removal
import Mathlib.Data.List.Nodup

/-!
# Rows of the network list

The list of the networks holds the stored networks sorted by a key, and those with the same
key as they are stored.  There is one such list only, and leaving networks out of it is the
same as leaving them out of the stored ones.  So a row of the list, a lookup by its position
and the removal of its network agree.
-/

namespace ContainerBoard

/-- Sorting keeps the order of what ties. -/
theorem filter_mergeSort
    {α : Type} {le : α → α → Bool} {keep : α → Bool}
    (htrans : ∀ a b c, le a b = true → le b c = true → le a c = true)
    (htotal : ∀ a b, (le a b || le b a) = true)
    (hties : ∀ a b, keep a = true → keep b = true → le a b = true) (stored : List α) :
    (stored.mergeSort le).filter keep = stored.filter keep := by
  have htied : (stored.filter keep).Pairwise fun a b => le a b = true := by
    apply List.pairwise_of_forall_mem_list
    intro a ha b hb
    exact hties a b (List.mem_filter.mp ha).2 (List.mem_filter.mp hb).2
  have hsublist :=
    (List.sublist_mergeSort htrans htotal htied List.filter_sublist).filter keep
  rw [List.filter_filter] at hsublist
  simp only [Bool.and_self] at hsublist
  have hperm := (List.mergeSort_perm stored le).filter keep
  exact (hsublist.eq_of_length hperm.length_eq.symm).symm

namespace SortMode

/-- What an order compares of a network. -/
def key : SortMode → Network → List String
  | unsorted, _ => []
  | byId, n => [n.id]
  | byName, n => [n.name]
  | byDriver, n => [n.driver, n.name]

variable {mode : SortMode} {a b : Network} {stored listed others : List Network}

theorem precedes_of_key_eq (h : mode.key a = mode.key b) : mode.Precedes a b := by
  cases mode with
  | unsorted => trivial
  | byId =>
      have hid : a.id = b.id := List.singleton_inj.mp h
      change a.id ≤ b.id
      exact hid ▸ String.le_refl a.id
  | byName =>
      have hname : a.name = b.name := List.singleton_inj.mp h
      change a.name ≤ b.name
      exact hname ▸ String.le_refl a.name
  | byDriver =>
      obtain ⟨hdriver, hname⟩ : a.driver = b.driver ∧ a.name = b.name := by simpa [key] using h
      exact .inr ⟨hdriver, hname ▸ String.le_refl a.name⟩

/-- Networks that may come before each other have the same key. -/
theorem key_eq_of_precedes (hab : mode.Precedes a b) (hba : mode.Precedes b a) :
    mode.key a = mode.key b := by
  cases mode with
  | unsorted => rfl
  | byId => exact congrArg (fun id => [id]) (String.le_antisymm hab hba)
  | byName => exact congrArg (fun name => [name]) (String.le_antisymm hab hba)
  | byDriver =>
      have hdriver : a.driver = b.driver := by
        rcases hab with hab | ⟨hab, -⟩
        · rcases hba with hba | ⟨hba, -⟩
          · exact absurd hba (String.lt_asymm hab)
          · exact hba.symm
        · exact hab
      have hname : a.name = b.name := by
        rcases hab with hab | ⟨-, hab⟩
        · exact absurd (hdriver ▸ hab) (String.lt_irrefl b.driver)
        · rcases hba with hba | ⟨-, hba⟩
          · exact absurd (hdriver ▸ hba) (String.lt_irrefl b.driver)
          · exact String.le_antisymm hab hba
      simp [key, hdriver, hname]

/-- The stored networks are listed in an order: each as often as it is stored, sorted, and
those with the same key as they are stored. -/
structure Sorts (mode : SortMode) (stored listed : List Network) : Prop where
  perm : listed.Perm stored
  sorted : listed.Pairwise mode.Precedes
  tied : ∀ key, listed.filter (mode.key · = key) = stored.filter (mode.key · = key)

theorem mem_of_filter_key
    (htied : ∀ key, listed.filter (mode.key · = key) = others.filter (mode.key · = key))
    (h : a ∈ listed) : a ∈ others := by
  have hmem : a ∈ listed.filter (mode.key · = mode.key a) :=
    List.mem_filter.mpr ⟨h, decide_eq_true rfl⟩
  rw [htied] at hmem
  exact (List.mem_filter.mp hmem).1

/-- What is first in two sorted lists with the same networks has the same key. -/
theorem key_head_eq
    (hlisted : (a :: listed).Pairwise mode.Precedes)
    (hothers : (b :: others).Pairwise mode.Precedes)
    (htied : ∀ key,
      (a :: listed).filter (mode.key · = key) = (b :: others).filter (mode.key · = key)) :
    mode.key a = mode.key b := by
  rcases List.mem_cons.mp (mem_of_filter_key htied List.mem_cons_self) with hab | hmem
  · rw [hab]
  · rcases List.mem_cons.mp
        (mem_of_filter_key (fun key => (htied key).symm) List.mem_cons_self) with hba | hmem'
    · rw [hba]
    · exact key_eq_of_precedes (List.rel_of_pairwise_cons hlisted hmem')
        (List.rel_of_pairwise_cons hothers hmem)

/-- A sorted list is made out by its networks with the same key. -/
theorem eq_of_filter_key
    (hlisted : listed.Pairwise mode.Precedes) (hothers : others.Pairwise mode.Precedes)
    (htied : ∀ key, listed.filter (mode.key · = key) = others.filter (mode.key · = key)) :
    listed = others := by
  induction listed generalizing others with
  | nil =>
      symm
      rw [List.eq_nil_iff_forall_not_mem]
      intro n hn
      cases mem_of_filter_key (fun key => (htied key).symm) hn
  | cons a listed ih =>
      cases others with
      | nil => cases mem_of_filter_key htied List.mem_cons_self
      | cons b others =>
          have hkey : mode.key a = mode.key b := key_head_eq hlisted hothers htied
          have hfirst := htied (mode.key a)
          rw [List.filter_cons, List.filter_cons, if_pos (decide_eq_true rfl),
            if_pos (decide_eq_true hkey.symm)] at hfirst
          obtain ⟨rfl, -⟩ := List.cons.inj hfirst
          refine congrArg (a :: ·) (ih hlisted.of_cons hothers.of_cons fun key => ?_)
          have hboth := htied key
          rw [List.filter_cons, List.filter_cons] at hboth
          split at hboth
          · exact (List.cons.inj hboth).2
          · exact hboth

/-- There is one list of the stored networks in an order. -/
theorem Sorts.unique (hlisted : mode.Sorts stored listed) (hothers : mode.Sorts stored others) :
    listed = others := by
  apply eq_of_filter_key hlisted.sorted hothers.sorted
  intro key
  rw [hlisted.tied, hothers.tied]

/-- Without an order the networks are listed as they are stored. -/
theorem Sorts.eq_stored (h : unsorted.Sorts stored listed) : listed = stored := by
  have hall := h.tied []
  rwa [List.filter_eq_self.mpr (by simp [key]), List.filter_eq_self.mpr (by simp [key])] at hall

/-- Networks may be left out after sorting as well as before it. -/
theorem Sorts.filter (h : mode.Sorts stored listed) (keep : Network → Bool) :
    mode.Sorts (stored.filter keep) (listed.filter keep) where
  perm := h.perm.filter keep
  sorted := h.sorted.filter keep
  tied key := by
    have hkept := congrArg (List.filter keep) (h.tied key)
    rw [List.filter_comm, List.filter_comm keep _ stored] at hkept
    exact hkept

end SortMode

namespace Daemon

/-- Sorting keeps networks with the same key as they are stored. -/
theorem filter_key_mergeSort
    (mode : SortMode) (networks : List Network) (key : List String) :
    (networks.mergeSort (inOrder mode)).filter (mode.key · = key) =
      networks.filter (mode.key · = key) := by
  apply filter_mergeSort (inOrder_trans mode) (inOrder_total mode)
  intro a b ha hb
  have hkey : mode.key a = mode.key b := by
    rw [of_decide_eq_true ha, of_decide_eq_true hb]
  exact inOrder_iff.mpr (SortMode.precedes_of_key_eq hkey)

theorem sorts_sortedNetworks (d : Daemon) : d.sort.Sorts d.networks d.sortedNetworks := by
  obtain ⟨hperm, hsorted, -, -⟩ := d.orders_sortedNetworks
  refine ⟨hperm, hsorted, fun key => ?_⟩
  unfold sortedNetworks
  split
  · rfl
  · exact filter_key_mergeSort d.sort d.networks key

/-! ## Rows -/

variable {d : Daemon}

theorem call_networks (hworks : d.Works) :
    (d.call .networks).1 = .ok d.sortedNetworks := by
  rw [call_of_answer (hworks _) rfl]
  rfl

/-- A position is a row of the list, or out of range. -/
theorem call_networkAt (hworks : d.Works) (position : Nat) :
    (d.call (.networkAt position)).1 =
      match d.sortedNetworks[position]? with
      | some n => .ok n
      | none => .error (.positionOutOfRange .network position) := by
  have hanswer : (d.record (Request.networkAt position).call).answer (.networkAt position) =
      (d.record (Request.networkAt position).call).answerOnly
        (rowOf .network d.sortedNetworks position) := rfl
  cases hrow : d.sortedNetworks[position]? with
  | some n =>
      have hfound : rowOf .network d.sortedNetworks position = .ok n := by
        simp only [rowOf, hrow]
      rw [hfound] at hanswer
      rw [call_of_answer (hworks _) hanswer]
  | none =>
      have hmissing : rowOf .network d.sortedNetworks position =
          .error (.positionOutOfRange .network position) := by
        simp only [rowOf, hrow]
      rw [hmissing] at hanswer
      rw [call_of_answer_error (hworks _) hanswer]

/-- In a list without doubles the object of a row is removed by removing the row. -/
theorem erase_eq_eraseIdx
    {listed : List Network} (hdistinct : listed.Nodup) {position : Nat} {n : Network}
    (hrow : listed[position]? = some n) : listed.erase n = listed.eraseIdx position := by
  obtain ⟨hlt, rfl⟩ := List.getElem?_eq_some_iff.mp hrow
  rw [← List.eraseIdx_idxOf_eq_erase, hdistinct.idxOf_getElem position hlt]

/-- Removing the network of a row removes the row and nothing else. -/
theorem sortedNetworks_removeNetwork
    (hworks : d.Works) (hdistinct : (d.networks.map Network.id).Nodup) {position : Nat}
    {n : Network} (hrow : d.sortedNetworks[position]? = some n)
    (hown : n.isPredefined = false) :
    (d.call (.removeNetwork n.id)).1 = .ok () ∧
      (d.call (.removeNetwork n.id)).2.sortedNetworks =
        d.sortedNetworks.eraseIdx position := by
  have hsorts := d.sorts_sortedNetworks
  have hstored : d.networks.Nodup := List.Nodup.of_map Network.id hdistinct
  have hlisted : d.sortedNetworks.Nodup := hsorts.perm.nodup_iff.mpr hstored
  have hmem : n ∈ d.networks := hsorts.perm.mem_iff.mp (List.mem_of_getElem? hrow)
  obtain ⟨hremoved, hnetworks⟩ := call_removeNetwork_of_mem hworks hdistinct hmem hown
  have hsort := (d.sort_call (.removeNetwork n.id)).1
  have hafter := (d.call (.removeNetwork n.id)).2.sorts_sortedNetworks
  rw [hsort, hnetworks, hstored.erase_eq_filter] at hafter
  have hfiltered := hsorts.filter (· != n)
  rw [← erase_eq_eraseIdx hlisted hrow, hlisted.erase_eq_filter]
  exact ⟨hremoved, hafter.unique hfiltered⟩

/-- The list of the networks, the rows at its positions and the removals of their networks
agree. -/
structure Rows (d : Daemon) (listed : List Network) : Prop where
  answered : (d.call .networks).1 = .ok listed
  sorts : d.sort.Sorts d.networks listed
  asStored : d.sort = .unsorted → listed = d.networks
  row : ∀ position,
    (d.call (.networkAt position)).1 =
      match listed[position]? with
      | some n => .ok n
      | none => .error (.positionOutOfRange .network position)
  removed : (d.networks.map Network.id).Nodup → ∀ position n,
    listed[position]? = some n → n.isPredefined = false →
      (d.call (.removeNetwork n.id)).1 = .ok () ∧
        ((d.call (.removeNetwork n.id)).2.call .networks).1 = .ok (listed.eraseIdx position)

theorem rows_sortedNetworks (hworks : d.Works) : d.Rows d.sortedNetworks where
  answered := call_networks hworks
  sorts := d.sorts_sortedNetworks
  asStored hsort := by
    have hsorts := d.sorts_sortedNetworks
    rw [hsort] at hsorts
    exact hsorts.eq_stored
  row := call_networkAt hworks
  removed hdistinct position n hrow hown := by
    obtain ⟨hremoved, hlisted⟩ := sortedNetworks_removeNetwork hworks hdistinct hrow hown
    refine ⟨hremoved, ?_⟩
    rw [call_networks (hworks.call (.removeNetwork n.id)), hlisted]

/-! ## Orders told one after the other -/

/-- Tells the daemon orders one after the other. -/
def sortEach (d : Daemon) (modes : List SortMode) : Daemon :=
  modes.foldl sortNetworks d

/-- Only the last order matters, and no order touches what is stored. -/
theorem sortEach_eq (d : Daemon) (modes : List SortMode) :
    d.sortEach modes =
      { d with
        sort := modes.getLast?.getD d.sort
        directives := d.directives ++ modes } := by
  induction modes generalizing d with
  | nil => simp [sortEach]
  | cons mode modes ih =>
      have hnext : d.sortEach (mode :: modes) = (d.sortNetworks mode).sortEach modes := rfl
      rw [hnext, ih]
      simp [sortNetworks, List.getLast?_cons]

/-- Whatever orders a daemon is told, what it stores stays as it is, and the last of them
decides how its networks are listed.  The list is sorted, its positions are the rows that
are looked up, and where no id stands twice, removing the network of a row deletes that row
from the list. -/
theorem rows_agree_in_last_order (hworks : d.Works) (modes : List SortMode) :
    let told := d.sortEach modes
    told.networks = d.networks ∧ told.sort = modes.getLast?.getD d.sort ∧
      ∃ listed, told.Rows listed ∧
        ∀ others : List SortMode, others.getLast? = modes.getLast? →
          ((d.sortEach others).call .networks).1 = .ok listed := by
  have hstill (modes : List SortMode) : (d.sortEach modes).Works := by
    rw [sortEach_eq]
    exact hworks
  refine ⟨by rw [sortEach_eq], by rw [sortEach_eq], _, rows_sortedNetworks (hstill modes), ?_⟩
  intro others hlast
  have hlisted : (d.sortEach others).sortedNetworks = (d.sortEach modes).sortedNetworks := by
    rw [sortEach_eq, sortEach_eq, hlast]
    rfl
  rw [call_networks (hstill others), hlisted]

/-- Two networks of one name are listed as they are stored, behind the one of the daemon
itself; the first of them is removed. -/
theorem second_row_removed :
    let bridge : Network := { id := "2", name := "bridge", driver := "bridge" }
    let web : Network := { id := "3", name := "web", driver := "overlay" }
    let other : Network := { id := "1", name := "web", driver := "bridge" }
    let d : Daemon := { networks := [web, bridge, other] }
    let told := d.sortEach [.byId, .byDriver, .byName]
    d.Works ∧ (told.call .networks).1 = .ok [bridge, web, other] ∧
      (told.call (.networkAt 1)).1 = .ok web ∧
      (told.call (.networkAt 3)).1 = .error (.positionOutOfRange .network 3) ∧
      ((told.call (.removeNetwork "3")).2.call .networks).1 = .ok [bridge, other] := by
  intro bridge web other d told
  have hworks : d.Works := fun _ => rfl
  obtain ⟨hstored, hsort, listed, hrows, -⟩ :=
    rows_agree_in_last_order hworks [.byId, .byDriver, .byName]
  have hlisted : listed = [bridge, web, other] := by
    have hsorts := hrows.sorts
    rw [hstored, hsort] at hsorts
    refine hsorts.unique ⟨by decide, ?_, ?_⟩
    · have hbefore : "bridge" ≤ "web" := by decide
      simp [SortMode.Precedes, bridge, web, other, hbefore]
    · intro key
      by_cases hbridge : ["bridge"] = key
      · rw [← hbridge]
        rfl
      · simp [List.filter_cons, SortMode.key, d, bridge, web, other, hbridge]
  subst hlisted
  have hrow : [bridge, web, other][1]? = some web := rfl
  have hremoved := (hrows.removed (by rw [hstored]; decide) 1 web hrow rfl).2
  exact ⟨hworks, hrows.answered, hrows.row 1, hrows.row 3, hremoved⟩

end Daemon

end ContainerBoard
