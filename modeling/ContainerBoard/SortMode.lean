/-!
# Orders of the network list
-/

namespace ContainerBoard

/-- An order of the network list. -/
inductive SortMode where
  | unsorted
  | byId
  | byName
  | byDriver
  deriving DecidableEq, Repr

namespace SortMode

/-- The order that is in force when nothing else is asked for. -/
instance : Inhabited SortMode := ⟨byId⟩

/-- The next order when the user goes through them. -/
def next : SortMode → SortMode
  | byId => byName
  | byName => byDriver
  | byDriver => byId
  | unsorted => unsorted

def label : SortMode → String
  | unsorted => "unsorted"
  | byId => "id"
  | byName => "name"
  | byDriver => "driver"

/-- The order's name in debugging output. -/
def debugName : SortMode → String
  | unsorted => "Unsorted"
  | byId => "ById"
  | byName => "ByName"
  | byDriver => "ByDriver"

end SortMode

end ContainerBoard
