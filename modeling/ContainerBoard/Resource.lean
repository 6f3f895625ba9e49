/-!
# Kinds of resources

The kinds of objects that the daemon manages.
-/

namespace ContainerBoard

/-- A kind of object that the daemon manages. -/
inductive Resource where
  | container
  | image
  | network
  | service
  | node
  deriving DecidableEq, Repr

def Resource.word : Resource → String
  | .container => "container"
  | .image => "image"
  | .network => "network"
  | .service => "service"
  | .node => "node"

end ContainerBoard
