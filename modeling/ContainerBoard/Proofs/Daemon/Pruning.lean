import ContainerBoard.Proofs.Daemon.Removal
import Mathlib.Algebra.Ring.Int.Defs

/-!
# Prunes

A prune splits each list of objects into those that are kept and those that are reported,
and loses, doubles and moves none of them.  It leaves the containers and images that the bulk
removals leave, and a second prune finds nothing to remove.
-/

namespace ContainerBoard.Daemon

/-- The bytes that the images without a tag take, those of a negative size none. -/
def danglingBytes (d : Daemon) : Int :=
  ((d.images.filter Image.isDangling).map fun i => max i.size.toInt 0).sum

/-- What a prune keeps and what it reports of the objects of a daemon. -/
structure PrunesTo (d : Daemon) (report : PruneReport) (d' : Daemon) : Prop where
  containers : d'.containers = d.containers.filter Container.isRunning
  images : d'.images = d.images.filter fun i => !i.isDangling
  networks : d'.networks = d.networks.filter fun n => n.isUsed || n.isPredefined
  reportedContainers :
    report.containers = (d.containers.filter fun c => !c.isRunning).map Container.id
  reportedImages : report.images = (d.images.filter Image.isDangling).map Image.id
  reportedNetworks :
    report.networks =
      (d.networks.filter fun n => !(n.isUsed || n.isPredefined)).map Network.id
  noVolumes : report.volumes = []
  reclaimed : (report.reclaimed.toNat : Int) = d.danglingBytes
  total : d.objectCount = d'.objectCount + report.total

/-- Nothing is lost and nothing is doubled: every id is reported or kept, as often as it was
there. -/
structure Splits (d : Daemon) (report : PruneReport) (d' : Daemon) : Prop where
  containers :
    (report.containers ++ d'.containers.map Container.id).Perm (d.containers.map Container.id)
  images : (report.images ++ d'.images.map Image.id).Perm (d.images.map Image.id)
  networks : (report.networks ++ d'.networks.map Network.id).Perm (d.networks.map Network.id)

/-- The bulk removals, whichever is done first, remove that many containers and images, and
leave those of another daemon. -/
structure BulkRemoves (d : Daemon) (containers images : Nat) (d' : Daemon) : Prop where
  stoppedFirst :
    let first := d.call .removeStopped
    let second := first.2.call .removeDangling
    first.1 = .ok containers ∧ second.1 = .ok images ∧
      second.2.containers = d'.containers ∧ second.2.images = d'.images
  danglingFirst :
    let first := d.call .removeDangling
    let second := first.2.call .removeStopped
    first.1 = .ok images ∧ second.1 = .ok containers ∧
      second.2.containers = d'.containers ∧ second.2.images = d'.images

/-! ## What is kept and what is reported -/

theorem cast_imageBytes (images : List Image) :
    (((images.map imageBytes).foldr (· + ·) 0 : Nat) : Int) =
      (images.map fun i => max i.size.toInt 0).sum := by
  induction images with
  | nil => rfl
  | cons i images ih =>
      rw [List.map_cons, List.foldr_cons, List.map_cons, List.sum_cons, ← ih, Int.natCast_add,
        imageBytes, Int.ofNat_toNat]

variable {d : Daemon}

theorem toNat_reclaimed (hfits : d.danglingBytes < UInt64.size) :
    (d.pruneReport.reclaimed.toNat : Int) = d.danglingBytes := by
  have hbytes := cast_imageBytes (d.images.filter Image.isDangling)
  have hlt : ((d.images.filter Image.isDangling).map imageBytes).foldr (· + ·) 0 <
      UInt64.size := by
    unfold danglingBytes at hfits
    omega
  have hreclaimed : d.pruneReport.reclaimed.toNat =
      ((d.images.filter Image.isDangling).map imageBytes).foldr (· + ·) 0 :=
    UInt64.toNat_ofNat_of_lt hlt
  rw [hreclaimed, hbytes]
  rfl

theorem isUnused_eq : isUnused = fun n => !(n.isUsed || n.isPredefined) := by
  funext n
  simp [isUnused, Bool.not_or]

theorem prunesTo_pruned (hfits : d.danglingBytes < UInt64.size) :
    d.PrunesTo d.pruneReport d.pruned where
  containers := rfl
  images := rfl
  networks := by simp [pruned, isUnused_eq]
  reportedContainers := rfl
  reportedImages := rfl
  reportedNetworks := by rw [← isUnused_eq]; rfl
  noVolumes := rfl
  reclaimed := toNat_reclaimed hfits
  total := (pruned_loses d).objectCount

theorem perm_split {ι : Type} (idOf : ι → String) (goes : ι → Bool) (items : List ι) :
    ((items.filter goes).map idOf ++ (items.filter fun item => !goes item).map idOf).Perm
      (items.map idOf) := by
  rw [← List.map_append]
  exact (List.filter_append_perm goes items).map idOf

theorem splits_pruned (d : Daemon) : d.Splits d.pruneReport d.pruned where
  containers := by
    have hsplit := perm_split Container.id (fun c => !c.isRunning) d.containers
    simpa [pruneReport, pruned] using hsplit
  images := perm_split Image.id Image.isDangling d.images
  networks := perm_split Network.id isUnused d.networks

theorem pruneReport_pruned (d : Daemon) : d.pruned.pruneReport = {} := by
  simp [pruneReport, pruned]

theorem pruned_pruned (d : Daemon) : d.pruned.pruned = d.pruned := by
  simp [pruned]

theorem call_prune_of_works (hworks : d.Works) :
    d.call .prune = (.ok d.pruneReport, d.pruned.record Request.prune.call) :=
  call_of_answer (hworks _) rfl

/-- A second prune finds nothing to remove. -/
theorem call_prune_again (hworks : d.Works) :
    let d' := d.pruned.record Request.prune.call
    d'.call .prune = (.ok {}, d'.record Request.prune.call) := by
  intro d'
  have hstill : d'.Works := hworks
  have hreport : d'.pruneReport = {} := d.pruneReport_pruned
  have hpruned : d'.pruned = d' :=
    congrArg (fun d => d.record Request.prune.call) d.pruned_pruned
  rw [call_prune_of_works hstill, hreport, hpruned]

/-! ## Bulk removals -/

theorem length_reportedContainers (d : Daemon) :
    d.pruneReport.containers.length = (d.containers.filter fun c => !c.isRunning).length :=
  List.length_map _

theorem length_reportedImages (d : Daemon) :
    d.pruneReport.images.length = (d.images.filter Image.isDangling).length :=
  List.length_map _

theorem bulkRemoves_pruned (hworks : d.Works) :
    d.BulkRemoves d.pruneReport.containers.length d.pruneReport.images.length d.pruned where
  stoppedFirst := by
    intro first second
    have himages : d.SameObjects first.2 .image := sameObjects_call (by decide)
    have hcontainers : first.2.SameObjects second.2 .container := sameObjects_call (by decide)
    obtain ⟨hstopped, hrunning⟩ := call_removeStopped hworks
    obtain ⟨hdangling, htagged⟩ := call_removeDangling (hworks.call .removeStopped)
    rw [length_reportedContainers, length_reportedImages]
    rw [himages] at hdangling htagged
    exact ⟨hstopped, hdangling, Eq.trans hcontainers hrunning, htagged⟩
  danglingFirst := by
    intro first second
    have hcontainers : d.SameObjects first.2 .container := sameObjects_call (by decide)
    have himages : first.2.SameObjects second.2 .image := sameObjects_call (by decide)
    obtain ⟨hdangling, htagged⟩ := call_removeDangling hworks
    obtain ⟨hstopped, hrunning⟩ := call_removeStopped (hworks.call .removeDangling)
    rw [length_reportedContainers, length_reportedImages]
    rw [hcontainers] at hstopped hrunning
    exact ⟨hdangling, hstopped, hrunning, Eq.trans himages htagged⟩

/-- A prune splits the objects into those in use, which it keeps in their order, and the
others, which it reports in their order.  It removes what the bulk removals remove, and
there is nothing left for a second prune. -/
theorem prune_splits_objects
    (hworks : d.Works) (hfits : d.danglingBytes < UInt64.size) :
    ∃ report d', d.call .prune = (.ok report, d') ∧ d.PrunesTo report d' ∧
      d.Splits report d' ∧
      d.BulkRemoves report.containers.length report.images.length d' ∧
      d'.call .prune = (.ok {}, d'.record Request.prune.call) := by
  have hprunes := prunesTo_pruned hfits
  have hsplits := d.splits_pruned
  have hbulk := bulkRemoves_pruned hworks
  -- the record of the call is none of the lists of objects
  refine ⟨_, _, call_prune_of_works hworks, ?_, ?_, ?_, call_prune_again hworks⟩
  · exact { hprunes with }
  · exact { hsplits with }
  · exact { hbulk with }

/-- An image of a negative size gives no bytes back, and an id that stands twice is reported
twice. -/
theorem negative_size_reclaims_nothing :
    let d : Daemon :=
      { images :=
          [{ id := "a", size := -5 }, { id := "b", tags := ["app:1"], size := 9 },
            { id := "a", tags := [Image.noTag], size := 7 }]
        networks := [{ id := "n", name := "lan" }, { id := "m", name := "bridge" }] }
    d.Works ∧ d.danglingBytes < UInt64.size ∧
      ∃ report d', d.call .prune = (.ok report, d') ∧
        report.images = ["a", "a"] ∧ (report.reclaimed.toNat : Int) = 7 ∧
        report.networks = ["n"] ∧ d.objectCount = d'.objectCount + report.total ∧
        d'.call .prune = (.ok {}, d'.record Request.prune.call) := by
  intro d
  have hworks : d.Works := fun _ => rfl
  have hfits : d.danglingBytes < UInt64.size := by decide
  obtain ⟨report, d', hcall, hprunes, -, -, hagain⟩ := prune_splits_objects hworks hfits
  exact ⟨hworks, hfits, report, d', hcall, hprunes.reportedImages, hprunes.reclaimed,
    hprunes.reportedNetworks, hprunes.total, hagain⟩

end ContainerBoard.Daemon
