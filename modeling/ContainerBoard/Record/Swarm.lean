import ContainerBoard.Record.Layout

/-!
# Services, nodes and tasks

The records of a swarm: a service, a node, and a task of the one on the
other.
-/

namespace ContainerBoard

/-- A service of the swarm. -/
structure Service where
  id : String
  name : String
  image : String := ""
  replicas : UInt64 := 0
  deriving DecidableEq, Inhabited

def Service.layout : Layout Service where
  name := "Service"
  Parts := String × String × String × UInt64 × Unit
  fields :=
    .cons (.needed "ID" .string) <|
    .cons (.needed "Name" .string) <|
    .cons (.defaulted "Image" .string "") <|
    .cons (.defaulted "Replicas" .unsigned64 0) .nil
  toParts s := (s.id, s.name, s.image, s.replicas, ())
  ofParts p :=
    let (id, name, image, replicas, ()) := p
    { id, name, image, replicas }

/-- A node of the swarm. -/
structure Node where
  id : String
  hostname : String
  role : String := ""
  state : String := ""
  deriving DecidableEq, Inhabited

def Node.layout : Layout Node where
  name := "Node"
  Parts := String × String × String × String × Unit
  fields :=
    .cons (.needed "ID" .string) <|
    .cons (.needed "Hostname" .string) <|
    .cons (.defaulted "Role" .string "") <|
    .cons (.defaulted "State" .string "") .nil
  toParts n := (n.id, n.hostname, n.role, n.state, ())
  ofParts p :=
    let (id, hostname, role, state, ()) := p
    { id, hostname, role, state }

/-- A task of a service on a node. -/
structure Task where
  id : String
  serviceId : String
  nodeId : String
  state : String := ""
  deriving DecidableEq, Inhabited

def Task.layout : Layout Task where
  name := "Task"
  Parts := String × String × String × String × Unit
  fields :=
    .cons (.needed "ID" .string) <|
    .cons (.needed "ServiceID" .string) <|
    .cons (.needed "NodeID" .string) <|
    .cons (.defaulted "State" .string "") .nil
  toParts t := (t.id, t.serviceId, t.nodeId, t.state, ())
  ofParts p :=
    let (id, serviceId, nodeId, state, ()) := p
    { id, serviceId, nodeId, state }

end ContainerBoard
