import ContainerBoard.Record.Codec

/-!
# Layouts of records

A `Layout` lists the fields of a record in order.  A record is written as an
object with all its fields.  It is read from an object, in which fields may
stand in any order and members of other names are passed over, or from a
list of its fields.  A field with a default may be left out.
-/

namespace ContainerBoard

/-- A field of a record. -/
structure Field (α : Type) where
  name : String
  codec : Codec α
  /-- The value of a field that is left out, if it may be. -/
  absent : Option α := none
  /-- Whether a value is not written at all. -/
  omits : α → Bool := fun _ => false

namespace Field

variable {α : Type}

/-- A field that has to be there. -/
def needed (name : String) (codec : Codec α) : Field α :=
  { name, codec }

/-- A field that may be left out. -/
def defaulted (name : String) (codec : Codec α) (value : α) : Field α :=
  { name, codec, absent := some value }

/-- The members that a value of the field is written as. -/
def members (field : Field α) (value : α) : List (String × Json) :=
  if field.omits value then [] else [(field.name, field.codec.write value)]

/-- What is wrong with a value of the field, if anything. -/
def fault? (field : Field α) (value : Json) : Option Fault :=
  match field.codec.read value with
  | .ok _ => none
  | .error fault => some fault

end Field

/-- The fields of a record, whose values make up a tuple. -/
inductive Fields : Type → Type 1 where
  | nil : Fields Unit
  | cons {α β : Type} (field : Field α) (rest : Fields β) : Fields (α × β)

namespace Fields

def count : {τ : Type} → Fields τ → Nat
  | _, nil => 0
  | _, cons _ rest => rest.count + 1

/-- The names of the fields with the test of their values. -/
def tests : {τ : Type} → Fields τ → List (String × (Json → Option Fault))
  | _, nil => []
  | _, cons field rest => (field.name, field.fault?) :: rest.tests

/-- The members that a tuple of values is written as. -/
def members : {τ : Type} → Fields τ → τ → List (String × Json)
  | _, nil, _ => []
  | _, cons field rest, (value, values) => field.members value ++ rest.members values

/-- The first complaint about the members of an object; `seen` holds the
names of the fields before them. -/
def firstFault (tests : List (String × (Json → Option Fault))) (seen : List String) :
    List (String × Json) → Option Fault
  | [] => none
  | (name, value) :: rest =>
    match tests.lookup name with
    | none => firstFault tests seen rest
    | some test =>
      if name ∈ seen then some (.duplicateField name)
      else
        match test value with
        | some fault => some fault
        | none => firstFault tests (name :: seen) rest

/-- The values that the members of an object give to the fields. -/
def collect (members : List (String × Json)) :
    {τ : Type} → Fields τ → Except Fault τ
  | _, nil => .ok ()
  | _, cons field rest => do
    let value ←
      match members.lookup field.name, field.absent with
      | some value, _ => field.codec.read value
      | none, some value => .ok value
      | none, none => .error (.missingField field.name)
    let values ← collect members rest
    .ok (value, values)

/-- The values that the items of a list give to the fields.  The error of a
list that ends too early tells the place of the field. -/
def distribute (tooShort : Nat → Fault) (closed : Bool) (place : Nat) :
    {τ : Type} → Fields τ → List Json → Except Fault τ
  | _, nil, items =>
    if items.isEmpty && closed then .ok () else .error .malformed
  | _, cons field rest, item :: items => do
    let value ← field.codec.read item
    let values ← distribute tooShort closed (place + 1) rest items
    .ok (value, values)
  | _, cons field rest, [] =>
    if closed then
      match field.absent with
      | some value => do
        let values ← distribute tooShort closed (place + 1) rest []
        .ok (value, values)
      | none => .error (tooShort place)
    else .error .malformed

end Fields

/-- The written form of a type of records. -/
structure Layout (ρ : Type) where
  /-- The name of the record in complaints. -/
  name : String
  /-- The tuples of values of the fields. -/
  Parts : Type
  fields : Fields Parts
  toParts : ρ → Parts
  ofParts : Parts → ρ
  /-- A record is made of the values of its fields. -/
  ofParts_toParts : ∀ r, ofParts (toParts r) = r := by intro r; rfl

namespace Layout

variable {ρ : Type}

/-- Reads a record from the members of an object. -/
def ofMembers (layout : Layout ρ) (members : List (String × Json)) (closed : Bool) :
    Except Fault ρ :=
  match Fields.firstFault layout.fields.tests [] members with
  | some fault => .error fault
  | none =>
    if closed then (Fields.collect members layout.fields).map layout.ofParts
    else .error .malformed

/-- Reads a record from the items of a list. -/
def ofItems (layout : Layout ρ) (items : List Json) (closed : Bool) : Except Fault ρ :=
  let tooShort (length : Nat) := Fault.tooShort length layout.name layout.fields.count
  (layout.fields.distribute tooShort closed 0 items).map layout.ofParts

def read (layout : Layout ρ) : Json → Except Fault ρ
  | .object members closed => layout.ofMembers members closed
  | .array items closed => layout.ofItems items closed
  | other => .error ((Wanted.record layout.name).refuse other)

def write (layout : Layout ρ) (r : ρ) : Json :=
  .record (layout.fields.members (layout.toParts r))

/-- The codec of the records. -/
def codec (layout : Layout ρ) : Codec ρ where
  write := layout.write
  read := layout.read

end Layout

end ContainerBoard
