import ContainerBoard.Proofs.KeyTable
import ContainerBoard.Proofs.Time.RoundTrip
import ContainerBoard.Record.Codec

/-!
# Lossless codecs

A codec is lossless when every value is read back from the document it is written as.
The codecs of the types that fields of records have are all lossless.
-/

namespace ContainerBoard

namespace Codec

variable {α β : Type}

/-- Every value is read back from the document it is written as. -/
class Lossless (codec : Codec α) : Prop where
  read_write : ∀ value, codec.read (codec.write value) = .ok value

export Lossless (read_write)

instance : string.Lossless where
  read_write _ := rfl

instance : bool.Lossless where
  read_write _ := rfl

instance : signed64.Lossless where
  read_write value := by
    have hrange : Int64.minValue.toInt ≤ value.toInt ∧ value.toInt ≤ Int64.maxValue.toInt :=
      ⟨value.minValue_le_toInt, value.toInt_le⟩
    have hread : signed64.read (.int value.toInt) = .ok (Int64.ofInt value.toInt) :=
      if_pos hrange
    exact hread.trans (congrArg Except.ok value.ofInt_toInt)

instance : unsigned64.Lossless where
  read_write value := by
    have hrange : 0 ≤ (value.toNat : Int) ∧ (value.toNat : Int).toNat < UInt64.size :=
      ⟨Int.natCast_nonneg _, value.toNat_lt_size⟩
    have hread : unsigned64.read (.int value.toNat) =
        .ok (UInt64.ofNat (value.toNat : Int).toNat) := if_pos hrange
    exact hread.trans (congrArg Except.ok UInt64.ofNat_toNat)

instance : unsigned32.Lossless where
  read_write value := by
    have hrange : 0 ≤ (value.toNat : Int) ∧ (value.toNat : Int).toNat < UInt32.size :=
      ⟨Int.natCast_nonneg _, value.toNat_lt_size⟩
    have hread : unsigned32.read (.int value.toNat) =
        .ok (UInt32.ofNat (value.toNat : Int).toNat) := if_pos hrange
    exact hread.trans (congrArg Except.ok UInt32.ofNat_toNat)

instance : time.Lossless where
  read_write value := by
    unfold time
    simp only [Timestamp.read_text]
    rfl

theorem optional_read_of_ne_null
    (codec : Codec α) {document : Json} (h : document ≠ .null) :
    (optional codec).read document = (codec.read document).map some := by
  cases document with
  | null => exact absurd rfl h
  | _ => rfl

/-- A value that may be absent is read back, unless its codec writes a value as the
document that stands for none. -/
theorem optional_lossless (codec : Codec α) [codec.Lossless]
    (hnull : ∀ value, codec.write value ≠ .null) : (optional codec).Lossless where
  read_write value? := by
    cases value? with
    | none => rfl
    | some value =>
        change (optional codec).read (codec.write value) = _
        rw [optional_read_of_ne_null codec (hnull value), read_write]
        rfl

instance : (optional string).Lossless :=
  optional_lossless string fun _ hnull => nomatch hnull

theorem mapM_map {write : α → β} {read : β → Except Fault α}
    (h : ∀ value, read (write value) = .ok value) (values : List α) :
    (values.map write).mapM read = .ok values := by
  induction values with
  | nil => rfl
  | cons value values ih =>
      rw [List.map_cons, List.mapM_cons, h, ih]
      rfl

instance (codec : Codec α) [codec.Lossless] : (list codec).Lossless where
  read_write values := by
    have hitems : (values.map codec.write).mapM codec.read = .ok values :=
      mapM_map read_write values
    change ((values.map codec.write).mapM codec.read >>= fun values => .ok values) = _
    rw [hitems]
    rfl

instance (codec : Codec α) [codec.Lossless] : (table codec).Lossless where
  read_write values := by
    let write : String × α → String × Json := fun (key, value) => (key, codec.write value)
    let read : String × Json → Except Fault (String × α) :=
      fun (key, value) => (codec.read value).map fun v => (key, v)
    have hentry : ∀ entry, read (write entry) = .ok entry := by
      intro entry
      change (codec.read (codec.write entry.2)).map _ = _
      rw [read_write]
      rfl
    have hentries : (values.entries.map write).mapM read = .ok values.entries :=
      mapM_map hentry values.entries
    change ((values.entries.map write).mapM read >>= fun entries =>
      .ok (KeyTable.ofList entries)) = _
    rw [hentries]
    exact congrArg Except.ok values.ofList_entries

end Codec

end ContainerBoard
