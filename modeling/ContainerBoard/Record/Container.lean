import ContainerBoard.Record.Layout

/-!
# Containers

The record of a container in the daemon's list.
-/

namespace ContainerBoard

/-- A container of the daemon. -/
structure Container where
  id : String
  names : List String := []
  image : String
  command : String := ""
  created : Int64 := 0
  state : String := ""
  status : String := ""
  deriving DecidableEq, Inhabited

namespace Container

def layout : Layout Container where
  name := "ContainerSummary"
  Parts := String × List String × String × String × Int64 × String × String × Unit
  fields :=
    .cons (.needed "Id" .string) <|
    .cons (.defaulted "Names" (.list .string) []) <|
    .cons (.needed "Image" .string) <|
    .cons (.defaulted "Command" .string "") <|
    .cons (.defaulted "Created" .signed64 0) <|
    .cons (.defaulted "State" .string "") <|
    .cons (.defaulted "Status" .string "") .nil
  toParts c := (c.id, c.names, c.image, c.command, c.created, c.state, c.status, ())
  ofParts p :=
    let (id, names, image, command, created, state, status, ()) := p
    { id, names, image, command, created, state, status }

/-- The first name, without the slashes in front of it. -/
def name (c : Container) : String :=
  match c.names with
  | [] => ""
  | name :: _ => String.ofList (name.toList.dropWhile (· == '/'))

def isRunning (c : Container) : Bool :=
  c.state == "running"

end Container

end ContainerBoard
