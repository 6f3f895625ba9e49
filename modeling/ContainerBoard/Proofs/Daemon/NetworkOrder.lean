import ContainerBoard.Proofs.Daemon.Call

/-!
# The order of the network list

Networks are listed as the order in force says: by id, by name, or by driver and then
by name.  The list holds the stored networks, each as often as it is stored, and where
the order does not tell two of them apart, they stay as they are stored.
-/

namespace ContainerBoard

namespace SortMode

/-- Whether an order lets a network come before another one. -/
def Precedes : SortMode → Network → Network → Prop
  | unsorted, _, _ => True
  | byId, a, b => a.id ≤ b.id
  | byName, a, b => a.name ≤ b.name
  | byDriver, a, b => a.driver < b.driver ∨ a.driver = b.driver ∧ a.name ≤ b.name

/-- The stored networks are listed in an order. -/
structure Orders (mode : SortMode) (stored listed : List Network) : Prop where
  perm : listed.Perm stored
  pairwise : listed.Pairwise mode.Precedes
  stable : ∀ a b, mode.Precedes a b → [a, b].Sublist stored → [a, b].Sublist listed
  unsorted : mode = .unsorted → listed = stored

variable {mode : SortMode} {a b c : Network}

theorem Precedes.trans (hab : mode.Precedes a b) (hbc : mode.Precedes b c) :
    mode.Precedes a c := by
  cases mode with
  | unsorted => trivial
  | byId => exact String.le_trans hab hbc
  | byName => exact String.le_trans hab hbc
  | byDriver =>
      rcases hab with hab | ⟨hab, hname⟩
      · rcases hbc with hbc | ⟨hbc, -⟩
        · exact .inl (String.lt_trans hab hbc)
        · exact .inl (hbc ▸ hab)
      · rcases hbc with hbc | ⟨hbc, hnext⟩
        · exact .inl (hab ▸ hbc)
        · exact .inr ⟨hab.trans hbc, String.le_trans hname hnext⟩

theorem precedes_total (mode : SortMode) (a b : Network) :
    mode.Precedes a b ∨ mode.Precedes b a := by
  cases mode with
  | unsorted => exact .inl trivial
  | byId => exact String.le_total a.id b.id
  | byName => exact String.le_total a.name b.name
  | byDriver =>
      by_cases hlt : a.driver < b.driver
      · exact .inl (.inl hlt)
      · by_cases hgt : b.driver < a.driver
        · exact .inr (.inl hgt)
        · have hsame : a.driver = b.driver :=
            String.le_antisymm (String.not_lt.mp hgt) (String.not_lt.mp hlt)
          rcases String.le_total a.name b.name with hname | hname
          · exact .inl (.inr ⟨hsame, hname⟩)
          · exact .inr (.inr ⟨hsame.symm, hname⟩)

end SortMode

namespace Daemon

theorem inOrder_iff {mode : SortMode} {a b : Network} :
    inOrder mode a b = true ↔ mode.Precedes a b := by
  cases mode <;> simp [inOrder, SortMode.Precedes]

theorem inOrder_trans (mode : SortMode) (a b c : Network)
    (hab : inOrder mode a b = true) (hbc : inOrder mode b c = true) :
    inOrder mode a c = true :=
  inOrder_iff.mpr ((inOrder_iff.mp hab).trans (inOrder_iff.mp hbc))

theorem inOrder_total (mode : SortMode) (a b : Network) :
    (inOrder mode a b || inOrder mode b a) = true := by
  rw [Bool.or_eq_true, inOrder_iff, inOrder_iff]
  exact mode.precedes_total a b

/-- Sorting puts the networks in order, whatever the order is. -/
theorem orders_mergeSort
    {mode : SortMode} (hmode : mode ≠ .unsorted) (networks : List Network) :
    mode.Orders networks (networks.mergeSort (inOrder mode)) := by
  have htrans := inOrder_trans mode
  have htotal := inOrder_total mode
  refine ⟨List.mergeSort_perm _ _, ?_, ?_, fun h => absurd h hmode⟩
  · exact (List.pairwise_mergeSort htrans htotal networks).imp inOrder_iff.mp
  · intro a b hab hstored
    exact List.pair_sublist_mergeSort htrans htotal (inOrder_iff.mpr hab) hstored

theorem orders_sortedNetworks (d : Daemon) : d.sort.Orders d.networks d.sortedNetworks := by
  unfold sortedNetworks
  split
  · rename_i hsort
    rw [hsort]
    refine ⟨.refl _, ?_, fun _ _ _ hstored => hstored, fun _ => rfl⟩
    exact List.pairwise_of_forall fun _ _ => trivial
  · rename_i hsort
    exact orders_mergeSort hsort d.networks

/-- Whenever the daemon lists its networks, they come in the order in force. -/
theorem orders_call_networks
    {d d' : Daemon} {networks : List Network} (h : d.call .networks = (.ok networks, d')) :
    d.sort.Orders d.networks networks := by
  cases call_ok h
  exact orders_sortedNetworks (d.record Request.networks.call)

end Daemon

end ContainerBoard
