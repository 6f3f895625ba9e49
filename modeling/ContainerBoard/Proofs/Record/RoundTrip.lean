import ContainerBoard.Proofs.Record.Reading
import ContainerBoard.Record.Container
import ContainerBoard.Record.Event
import ContainerBoard.Record.Host
import ContainerBoard.Record.Image
import ContainerBoard.Record.Network
import ContainerBoard.Record.Swarm

/-!
# Records are read back

Every field takes back the value that it is written as, so a record with a lossless layout
is read from its members, in whatever order they stand.  All layouts of the daemon's records
are lossless.
-/

namespace ContainerBoard

variable {α τ ρ : Type}

namespace Field

/-- A field takes the value back that it is written as, where no other member has its
name. -/
theorem takes_of_members
    {field : Field α} [hfield : field.Lossless] {value : α} {written : List (String × Json)}
    (hsame : ∀ document,
      (field.name, document) ∈ written ↔ (field.name, document) ∈ field.members value) :
    field.Takes written value := by
  have hcodec : field.codec.Lossless := hfield.codec
  constructor
  · intro document hdocument
    obtain ⟨-, rfl⟩ := field.eq_of_mem_members ((hsame document).mp hdocument)
    exact field.codec.read_write value
  · intro habsent
    apply hfield.absent value
    by_contra homits
    have hmember : (field.name, field.codec.write value) ∈ field.members value := by
      rw [members, if_neg homits]
      exact List.mem_singleton_self _
    exact habsent (mem_keysOf.mpr ⟨_, (hsame _).mpr hmember⟩)

end Field

/-- The fields take the values back from the members that these are written as. -/
theorem Fields.take_members
    {fields : Fields τ} (hfields : fields.Lossless) (hdistinct : fields.names.Nodup)
    (values : τ) : fields.Take (fields.members values) values := by
  induction hfields with
  | nil => trivial
  | @cons _ _ field rest hfield hrest ih =>
      obtain ⟨value, values⟩ := values
      have hnames : field.name ∉ rest.names ∧ rest.names.Nodup := List.nodup_cons.mp hdistinct
      have hmembers (name : String) (document : Json) :
          (name, document) ∈ members (cons field rest) (value, values) ↔
            (name, document) ∈ field.members value ∨ (name, document) ∈ rest.members values :=
        List.mem_append
      constructor
      · apply Field.takes_of_members
        intro document
        have hother : (field.name, document) ∉ rest.members values := fun hmember =>
          hnames.1 ((rest.keysOf_members_sublist values).subset (List.mem_map_of_mem hmember))
        simp [hmembers, hother]
      · refine (take_congr ?_).mpr (ih hnames.2 values)
        intro name hname document
        have hother : (name, document) ∉ field.members value := fun hmember =>
          hnames.1 ((field.eq_of_mem_members hmember).1 ▸ hname)
        simp [hmembers, hother]

namespace Layout

/-- A record is read back from its members in any order. -/
theorem read_of_perm
    (layout : Layout ρ) [layout.Lossless] (r : ρ) {members : List (String × Json)}
    (hperm : members.Perm (layout.fields.members (layout.toParts r))) :
    layout.read (.record members) = .ok r := by
  have hdistinct : layout.fields.names.Nodup := Lossless.distinct
  have hkeys := hdistinct.sublist (layout.fields.keysOf_members_sublist (layout.toParts r))
  have htake := Fields.take_members Lossless.fields hdistinct (layout.toParts r)
  apply layout.read_of_take
  · exact ((hperm.map Prod.fst).nodup_iff.mpr hkeys).filter _
  · exact (Fields.take_congr fun _ _ _ => hperm.mem_iff).mpr htake

theorem read_write (layout : Layout ρ) [layout.Lossless] (r : ρ) :
    layout.read (layout.write r) = .ok r :=
  layout.read_of_perm r (List.Perm.refl _)

instance (layout : Layout ρ) [layout.Lossless] : layout.codec.Lossless where
  read_write := layout.read_write

end Layout

instance : Container.layout.Lossless where
  fields := by unfold Container.layout; infer_instance

instance : Image.layout.Lossless where
  fields := by unfold Image.layout; infer_instance

instance : ImageLayer.layout.Lossless where
  fields := by unfold ImageLayer.layout; infer_instance

instance : ImageDetails.layout.Lossless where
  fields := by unfold ImageDetails.layout; infer_instance

instance : ImageRemoval.layout.Lossless where
  fields := by unfold ImageRemoval.layout; infer_instance

instance : Attachment.layout.Lossless where
  fields := by unfold Attachment.layout; infer_instance

instance : Network.layout.Lossless where
  fields := by unfold Network.layout; infer_instance

instance : Host.layout.Lossless where
  fields := by unfold Host.layout; infer_instance

instance : PruneReport.layout.Lossless where
  fields := by unfold PruneReport.layout; infer_instance

instance : Service.layout.Lossless where
  fields := by unfold Service.layout; infer_instance

instance : Node.layout.Lossless where
  fields := by unfold Node.layout; infer_instance

instance : Task.layout.Lossless where
  fields := by unfold Task.layout; infer_instance

instance : DaemonEvent.layout.Lossless where
  fields := by unfold DaemonEvent.layout; infer_instance

/-- Every record comes back from the document that it is written as, in whatever order
the members of the document stand. -/
structure Layout.ReadsBack {ρ : Type} (layout : Layout ρ) : Prop where
  read_written : ∀ r, layout.read (layout.write r) = .ok r
  read_reordered : ∀ r members,
    members.Perm (layout.fields.members (layout.toParts r)) →
      layout.read (.record members) = .ok r

theorem Layout.readsBack {ρ : Type} (layout : Layout ρ) [layout.Lossless] :
    layout.ReadsBack where
  read_written := layout.read_write
  read_reordered r _ hperm := layout.read_of_perm r hperm

/-- What was not untagged or not deleted is not written. -/
theorem ImageRemoval.keysOf_members (r : ImageRemoval) :
    keysOf (ImageRemoval.layout.fields.members (ImageRemoval.layout.toParts r)) =
      (if r.untagged.isSome then ["Untagged"] else []) ++
        (if r.deleted.isSome then ["Deleted"] else []) := by
  obtain ⟨untagged, deleted⟩ := r
  cases untagged with
  | none => cases deleted <;> rfl
  | some _ => cases deleted <;> rfl

/-- Every record that the daemon speaks of is read back from the document that it is
written as.  The things that the removal of an image did not do are left out of its
document, and a time is written with the fewest digits of its fraction. -/
theorem records_are_read_back :
    (Container.layout.ReadsBack ∧ Image.layout.ReadsBack ∧ ImageLayer.layout.ReadsBack ∧
      ImageDetails.layout.ReadsBack ∧ ImageRemoval.layout.ReadsBack ∧
      Network.layout.ReadsBack ∧ Attachment.layout.ReadsBack ∧ Host.layout.ReadsBack ∧
      PruneReport.layout.ReadsBack ∧ Service.layout.ReadsBack ∧ Node.layout.ReadsBack ∧
      Task.layout.ReadsBack ∧ DaemonEvent.layout.ReadsBack) ∧
    (∀ r : ImageRemoval,
      keysOf (ImageRemoval.layout.fields.members (ImageRemoval.layout.toParts r)) =
        (if r.untagged.isSome then ["Untagged"] else []) ++
          (if r.deleted.isSome then ["Deleted"] else [])) ∧
    (∀ t : Timestamp, Timestamp.read t.text = .ok t ∧
      ∃ digits, Timestamp.FractionDigits t.nano digits ∧
        Timestamp.fractionText t.nano =
          if digits = 0 then ""
          else "." ++ Text.zeroPadded digits (t.nano / 10 ^ (9 - digits))) := by
  refine ⟨?_, ImageRemoval.keysOf_members, ?_⟩
  · exact ⟨Layout.readsBack _, Layout.readsBack _, Layout.readsBack _, Layout.readsBack _,
      Layout.readsBack _, Layout.readsBack _, Layout.readsBack _, Layout.readsBack _,
      Layout.readsBack _, Layout.readsBack _, Layout.readsBack _, Layout.readsBack _,
      Layout.readsBack _⟩
  · intro t
    obtain ⟨-, -, -, -, -, -, hnano⟩ := t.bounds
    exact ⟨t.read_text, Timestamp.fractionText_eq hnano⟩

end ContainerBoard
