import ContainerBoard.Record.Layout

/-!
# Networks

The record of a network with the containers attached to it.
-/

namespace ContainerBoard

/-- A container as a network sees it. -/
structure Attachment where
  name : String
  address : String := ""
  deriving DecidableEq, Inhabited

def Attachment.layout : Layout Attachment where
  name := "NetworkContainer"
  Parts := String × String × Unit
  fields :=
    .cons (.needed "Name" .string) <|
    .cons (.defaulted "IPv4Address" .string "") .nil
  toParts a := (a.name, a.address, ())
  ofParts p :=
    let (name, address, ()) := p
    { name, address }

/-- A network of the daemon. -/
structure Network where
  id : String
  name : String
  driver : String := ""
  scope : String := ""
  isInternal : Bool := false
  /-- The attached containers by their ids. -/
  attached : KeyTable String Attachment := .empty
  deriving DecidableEq, Inhabited

namespace Network

def layout : Layout Network where
  name := "NetworkResource"
  Parts := String × String × String × String × Bool × KeyTable String Attachment × Unit
  fields :=
    .cons (.needed "Id" .string) <|
    .cons (.needed "Name" .string) <|
    .cons (.defaulted "Driver" .string "") <|
    .cons (.defaulted "Scope" .string "") <|
    .cons (.defaulted "Internal" .bool false) <|
    .cons (.defaulted "Containers" (.table Attachment.layout.codec) .empty) .nil
  toParts n := (n.id, n.name, n.driver, n.scope, n.isInternal, n.attached, ())
  ofParts p :=
    let (id, name, driver, scope, isInternal, attached, ()) := p
    { id, name, driver, scope, isInternal, attached }

/-- Whether the daemon made the network itself and keeps it. -/
def isPredefined (n : Network) : Bool :=
  n.name == "bridge" || n.name == "host" || n.name == "none"

/-- Whether containers are attached to the network. -/
def isUsed (n : Network) : Bool :=
  !n.attached.entries.isEmpty

end Network

end ContainerBoard
