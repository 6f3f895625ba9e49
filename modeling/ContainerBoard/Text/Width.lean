import ContainerBoard.Text.CellTables
import ContainerBoard.Text.Cluster

/-!
# Cell widths

How many cells of the screen a text takes.  A character takes none, one or
two cells by the tables; an emoji of several characters takes two cells in
all.  A control character counts one cell where text is measured as a whole,
but it is never drawn.
-/

namespace ContainerBoard.Text

/-- The cells that one character takes. -/
def charWidth (c : Char) : Nat :=
  if c.toNat < 0x7f then 1
  else if zeroWidthRanges.has c then 0
  else if wideRanges.has c then 2
  else 1

def isControl (c : Char) : Bool :=
  c.toNat < 0x20 || (0x7f ≤ c.toNat && c.toNat ≤ 0x9f)

/-- Whether the cluster is an emoji of several characters: one that asks for
its emoji form, one with a skin tone, or several joined ones. -/
def isEmojiSequence : List Char → Bool
  | [] => false
  | [_] => false
  | base :: next :: rest =>
    (isEmoji base && next.toNat == 0xfe0f) ||
    (isPictograph base &&
      (isEmojiModifier next || ((next :: rest).any isJoiner && rest.any isPictograph)))

/-- The cells that one cluster takes. -/
def clusterWidth (cluster : List Char) : Nat :=
  if isEmojiSequence cluster then 2
  else if cluster == ['\r', '\n'] then 1
  else (cluster.map charWidth).foldr (· + ·) 0

def width (s : String) : Nat :=
  ((clusters s).map clusterWidth).foldr (· + ·) 0

/-- Whether the cluster can be drawn: it holds no control. -/
def isDrawable (cluster : List Char) : Bool :=
  !cluster.any isControl

/-- The clusters of a text that can be drawn. -/
def drawable (s : String) : List (List Char) :=
  (clusters s).filter isDrawable

end ContainerBoard.Text
