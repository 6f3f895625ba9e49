/-!
# Short ids

Objects of the daemon have long ids.  Lists show a short form: the first
twelve characters after the name of the digest.
-/

namespace ContainerBoard.ObjectId

/-- The number of characters of a short id. -/
def shortLength : Nat := 12

/-- The name of the digest that may stand before an id. -/
def digestMark : List Char :=
  "sha256:".toList

/-- The id without the name of the digest. -/
def withoutDigest (id : List Char) : List Char :=
  if digestMark.isPrefixOf id then id.drop digestMark.length else id

def short (id : String) : String :=
  String.ofList ((withoutDigest id.toList).take shortLength)

end ContainerBoard.ObjectId
