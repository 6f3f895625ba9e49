import ContainerBoard.Proofs.Record.Lossless
import ContainerBoard.Record.Layout

/-!
# Members of records

The fields of a record are lossless if they have distinct names, every field has a
lossless codec, and a value is omitted only where the field has it as its default.  A
record is written as members with the names of its fields, each once at most.
-/

namespace ContainerBoard

variable {α β τ ρ : Type}

namespace Field

/-- Every value of the field comes back, be it written or omitted. -/
class Lossless (field : Field α) : Prop where
  codec : field.codec.Lossless
  absent : ∀ value, field.omits value = true → field.absent = some value

instance (name : String) (codec : Codec α) [codec.Lossless] :
    (needed name codec).Lossless where
  codec := ‹codec.Lossless›
  absent _ homits := nomatch homits

instance (name : String) (codec : Codec α) (value : α) [codec.Lossless] :
    (defaulted name codec value).Lossless where
  codec := ‹codec.Lossless›
  absent _ homits := nomatch homits

/-- The field of values that are omitted when they are absent. -/
instance (name : String) (codec : Codec (Option α)) [codec.Lossless] :
    Lossless { name, codec, absent := some none, omits := Option.isNone } where
  codec := inferInstance
  absent value? homits := by
    rw [Option.isNone_iff_eq_none.mp homits]

variable (field : Field α)

theorem eq_of_mem_members {name : String} {document : Json} {value : α}
    (h : (name, document) ∈ field.members value) :
    name = field.name ∧ document = field.codec.write value := by
  unfold members at h
  split at h
  · cases h
  · cases List.mem_singleton.mp h
    exact ⟨rfl, rfl⟩

theorem keysOf_members_sublist (value : α) :
    (keysOf (field.members value)).Sublist [field.name] := by
  unfold members
  split
  · exact List.nil_sublist _
  · exact List.Sublist.refl _

end Field

namespace Fields

/-- Every value of every field comes back. -/
class inductive Lossless : {τ : Type} → Fields τ → Prop where
  | nil : Lossless nil
  | cons {α β : Type} {field : Field α} {rest : Fields β} (hfield : field.Lossless)
      (hrest : Lossless rest) : Lossless (cons field rest)

instance : nil.Lossless :=
  .nil

instance (field : Field α) (rest : Fields β) [hfield : field.Lossless]
    [hrest : rest.Lossless] : (cons field rest).Lossless :=
  .cons hfield hrest

/-- The names of the fields. -/
def names (fields : Fields τ) : List String :=
  keysOf fields.tests

theorem keysOf_members_sublist (fields : Fields τ) (values : τ) :
    (keysOf (fields.members values)).Sublist fields.names := by
  induction fields with
  | nil => exact List.Sublist.refl _
  | cons field rest ih =>
      obtain ⟨value, values⟩ := values
      have hkeys : keysOf (members (cons field rest) (value, values)) =
          keysOf (field.members value) ++ keysOf (rest.members values) := List.map_append
      rw [hkeys]
      exact (field.keysOf_members_sublist value).append (ih values)

end Fields

namespace Layout

/-- The fields of the layout are lossless and have distinct names. -/
class Lossless (layout : Layout ρ) : Prop where
  fields : layout.fields.Lossless
  distinct : layout.fields.names.Nodup := by decide

end Layout

end ContainerBoard
