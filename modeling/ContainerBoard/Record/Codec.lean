import ContainerBoard.Json.Reader
import ContainerBoard.KeyTable
import ContainerBoard.Record.Fault

/-!
# Codecs

A `Codec` writes values of one type as documents and reads them back.  This
module has the codecs of the types that fields of records can have.
-/

namespace ContainerBoard

/-- A way to write values of a type as documents and to read them back. -/
structure Codec (α : Type) where
  write : α → Json
  read : Json → Except Fault α

namespace Codec

variable {α : Type}

def string : Codec String where
  write := .string
  read
    | .string value => .ok value
    | other => .error (Wanted.string.refuse other)

def bool : Codec Bool where
  write := .bool
  read
    | .bool value => .ok value
    | other => .error (Wanted.bool.refuse other)

def signed64 : Codec Int64 where
  write value := .int value.toInt
  read
    | .number (.int value) =>
      if Int64.minValue.toInt ≤ value ∧ value ≤ Int64.maxValue.toInt then
        .ok (Int64.ofInt value)
      else .error (.outOfRange value .signed64)
    | other => .error (Wanted.signed64.refuse other)

def unsigned64 : Codec UInt64 where
  write value := .int value.toNat
  read
    | .number (.int value) =>
      if 0 ≤ value ∧ value.toNat < UInt64.size then .ok (UInt64.ofNat value.toNat)
      else .error (.outOfRange value .unsigned64)
    | other => .error (Wanted.unsigned64.refuse other)

def unsigned32 : Codec UInt32 where
  write value := .int value.toNat
  read
    | .number (.int value) =>
      if 0 ≤ value ∧ value.toNat < UInt32.size then .ok (UInt32.ofNat value.toNat)
      else .error (.outOfRange value .unsigned32)
    | other => .error (Wanted.unsigned32.refuse other)

def time : Codec Timestamp where
  write value := .string value.text
  read
    | .string value => (Timestamp.read value).mapError .badTime
    | other => .error (Wanted.time.refuse other)

/-- The codec of values that may be absent. -/
def optional (codec : Codec α) : Codec (Option α) where
  write
    | some value => codec.write value
    | none => .null
  read
    | .null => .ok none
    | other => (codec.read other).map some

def list (codec : Codec α) : Codec (List α) where
  write values := .list (values.map codec.write)
  read
    | .array items closed => do
      let values ← items.mapM codec.read
      if closed then .ok values else .error .malformed
    | other => .error (Wanted.sequence.refuse other)

/-- The codec of tables. -/
def table (codec : Codec α) : Codec (KeyTable String α) where
  write values := .record (values.entries.map fun (key, value) => (key, codec.write value))
  read
    | .object members closed => do
      let entries ← members.mapM fun (key, value) => (codec.read value).map fun v => (key, v)
      if closed then .ok (KeyTable.ofList entries) else .error .malformed
    | other => .error (Wanted.map.refuse other)

/-- Reads a text that is one document and nothing else. -/
def readText (codec : Codec α) (text : String) : Except Fault α := do
  let (document, rest) := Json.read text
  let value ← codec.read document
  if Json.ends rest then .ok value else .error .malformed

end Codec

end ContainerBoard
