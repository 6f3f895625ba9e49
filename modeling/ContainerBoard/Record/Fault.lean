import ContainerBoard.Json.Basic
import ContainerBoard.Number.Shortest
import ContainerBoard.Text.Quoted
import ContainerBoard.Time.Reader

/-!
# Complaints about records

A document that is no record of the wanted kind gives one complaint: the
first one in the order of its text.
-/

namespace ContainerBoard

/-- What a document holds where something else is wanted. -/
inductive Found where
  | integer (value : Int)
  | real (negative : Bool) (magnitude : Binary)
  | string (value : String)
  | bool (value : Bool)
  | null
  | sequence
  | map
  deriving DecidableEq, Repr

/-- What a record wants in a place. -/
inductive Wanted where
  | string
  | sequence
  | map
  | bool
  | signed64
  | unsigned64
  | unsigned32
  | time
  | record (name : String)
  deriving DecidableEq, Repr

/-- The complaint about a document that is no record. -/
inductive Fault where
  /-- The text is not one whole value. -/
  | malformed
  | missingField (name : String)
  | duplicateField (name : String)
  | wrongType (found : Found) (wanted : Wanted)
  | outOfRange (value : Int) (wanted : Wanted)
  /-- A record written as a list ends before a field that it needs. -/
  | tooShort (length : Nat) (record : String) (fields : Nat)
  | badTime (fault : TimeFault)
  deriving DecidableEq, Repr

namespace Found

/-- A part of a complaint between backquotes. -/
def marked (s : String) : String :=
  "\x60" ++ s ++ "\x60"

def describe : Found → String
  | .integer value => "integer " ++ marked (toString value)
  | .real negative magnitude =>
    "floating point " ++ marked ((if negative then "-" else "") ++ magnitude.shortest)
  | .string value => "string " ++ Text.quoted value
  | .bool value => "boolean " ++ marked (if value then "true" else "false")
  | .null => "null"
  | .sequence => "sequence"
  | .map => "map"

end Found

def Wanted.describe : Wanted → String
  | .string => "a string"
  | .sequence => "a sequence"
  | .map => "a map"
  | .bool => "a boolean"
  | .signed64 => "i64"
  | .unsigned64 => "u64"
  | .unsigned32 => "u32"
  | .time => "an RFC 3339 formatted date and time string"
  | .record name => "struct " ++ name

/-- The text of a complaint; a malformed text is told as such and has none. -/
def Fault.message : Fault → String
  | .malformed => ""
  | .missingField name => "missing field " ++ Found.marked name
  | .duplicateField name => "duplicate field " ++ Found.marked name
  | .wrongType found wanted =>
    "invalid type: " ++ found.describe ++ ", expected " ++ wanted.describe
  | .outOfRange value wanted =>
    "invalid value: " ++ (Found.integer value).describe ++ ", expected " ++ wanted.describe
  | .tooShort length record fields =>
    "invalid length " ++ length.repr ++ ", expected struct " ++ record ++ " with " ++
      fields.repr ++ (if fields = 1 then " element" else " elements")
  | .badTime fault => fault.message

/-- The complaint about a value in a place where another kind is wanted. -/
def Wanted.refuse (wanted : Wanted) : Json → Fault
  | .null => .wrongType .null wanted
  | .bool value => .wrongType (.bool value) wanted
  | .number (.int value) => .wrongType (.integer value) wanted
  | .number (.real negative magnitude) => .wrongType (.real negative magnitude) wanted
  | .string value => .wrongType (.string value) wanted
  | .array _ _ => .wrongType .sequence wanted
  | .object _ _ => .wrongType .map wanted
  | .unread => .malformed
  | .broken => .malformed

end ContainerBoard
