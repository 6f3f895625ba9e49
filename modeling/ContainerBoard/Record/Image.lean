import ContainerBoard.Record.Layout

/-!
# Images

The records of an image: its entry in the daemon's list, its details, a
layer of its history, and what a removal did to it.
-/

namespace ContainerBoard

/-- An image of the daemon. -/
structure Image where
  id : String
  tags : List String := []
  created : Int64 := 0
  size : Int64 := 0
  deriving DecidableEq, Inhabited

namespace Image

def layout : Layout Image where
  name := "ImageSummary"
  Parts := String × List String × Int64 × Int64 × Unit
  fields :=
    .cons (.needed "Id" .string) <|
    .cons (.defaulted "RepoTags" (.list .string) []) <|
    .cons (.defaulted "Created" .signed64 0) <|
    .cons (.defaulted "Size" .signed64 0) .nil
  toParts i := (i.id, i.tags, i.created, i.size, ())
  ofParts p :=
    let (id, tags, created, size, ()) := p
    { id, tags, created, size }

/-- The tag of an image that has none. -/
def noTag : String := "<none>:<none>"

/-- Whether no tag names the image. -/
def isDangling (i : Image) : Bool :=
  i.tags.all (· == noTag)

end Image

/-- A layer in the history of an image. -/
structure ImageLayer where
  id : String
  created : Int64 := 0
  createdBy : String := ""
  size : Int64 := 0
  comment : String := ""
  deriving DecidableEq, Inhabited

def ImageLayer.layout : Layout ImageLayer where
  name := "ImageHistoryItem"
  Parts := String × Int64 × String × Int64 × String × Unit
  fields :=
    .cons (.needed "Id" .string) <|
    .cons (.defaulted "Created" .signed64 0) <|
    .cons (.defaulted "CreatedBy" .string "") <|
    .cons (.defaulted "Size" .signed64 0) <|
    .cons (.defaulted "Comment" .string "") .nil
  toParts l := (l.id, l.created, l.createdBy, l.size, l.comment, ())
  ofParts p :=
    let (id, created, createdBy, size, comment, ()) := p
    { id, created, createdBy, size, comment }

/-- The details of an image. -/
structure ImageDetails where
  id : String
  tags : List String := []
  parent : String := ""
  created : String := ""
  architecture : String := ""
  os : String := ""
  size : Int64 := 0
  deriving DecidableEq, Inhabited

def ImageDetails.layout : Layout ImageDetails where
  name := "ImageInspect"
  Parts := String × List String × String × String × String × String × Int64 × Unit
  fields :=
    .cons (.needed "Id" .string) <|
    .cons (.defaulted "RepoTags" (.list .string) []) <|
    .cons (.defaulted "Parent" .string "") <|
    .cons (.defaulted "Created" .string "") <|
    .cons (.defaulted "Architecture" .string "") <|
    .cons (.defaulted "Os" .string "") <|
    .cons (.defaulted "Size" .signed64 0) .nil
  toParts i := (i.id, i.tags, i.parent, i.created, i.architecture, i.os, i.size, ())
  ofParts p :=
    let (id, tags, parent, created, architecture, os, size, ()) := p
    { id, tags, parent, created, architecture, os, size }

/-- One thing that the removal of an image did. -/
structure ImageRemoval where
  untagged : Option String := none
  deleted : Option String := none
  deriving DecidableEq, Inhabited

def ImageRemoval.layout : Layout ImageRemoval where
  name := "ImageDeleteResponse"
  Parts := Option String × Option String × Unit
  fields :=
    .cons { name := "Untagged", codec := .optional .string, absent := some none,
            omits := Option.isNone } <|
    .cons { name := "Deleted", codec := .optional .string, absent := some none,
            omits := Option.isNone } .nil
  toParts r := (r.untagged, r.deleted, ())
  ofParts p :=
    let (untagged, deleted, ()) := p
    { untagged, deleted }

end ContainerBoard
