import ContainerBoard.Number.Binary

/-!
# Documents

The values of the data format that the daemon speaks.  A document is read
from its beginning, and a complaint about the first part may come before the
rest has been looked at; so a value also says where its text breaks off.  An
array or object is `closed` when its closing bracket was reached, `broken`
stands where no value could be read, and `unread` is a number or text that
can be passed over but has no value.
-/

namespace ContainerBoard

/-- A number of a document: an integer that fits 64 bits with or without
sign, or a floating-point number. -/
inductive JsonNumber where
  | int (value : Int)
  | real (negative : Bool) (magnitude : Binary)
  deriving DecidableEq, Repr

/-- A value of a document. -/
inductive Json where
  | null
  | bool (value : Bool)
  | number (value : JsonNumber)
  | string (value : String)
  | array (items : List Json) (closed : Bool)
  | object (members : List (String × Json)) (closed : Bool)
  | unread
  | broken
  deriving Repr

namespace Json

/-- The integer as a value. -/
def int (value : Int) : Json :=
  .number (.int value)

/-- A whole array. -/
def list (items : List Json) : Json :=
  .array items true

/-- A whole object. -/
def record (members : List (String × Json)) : Json :=
  .object members true

end Json

end ContainerBoard
