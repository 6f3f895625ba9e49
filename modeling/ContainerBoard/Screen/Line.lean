import ContainerBoard.Text.Column

/-!
# Styled text

Lines of text with colours.
-/

namespace ContainerBoard

/-- A colour of the terminal. -/
inductive Color where
  | white
  | gray
  | darkGray
  | red
  | lightGreen
  | rgb (red green blue : UInt8)
  deriving DecidableEq, Repr

namespace Color

/-- Two hexadecimal digits. -/
def hexByte (b : UInt8) : String :=
  String.ofList [(Nat.digitChar (b.toNat / 16)).toUpper, (Nat.digitChar (b.toNat % 16)).toUpper]

/-- The name of a colour; a mixed one is named by its three parts. -/
def name : Color → String
  | white => "White"
  | gray => "Gray"
  | darkGray => "DarkGray"
  | red => "Red"
  | lightGreen => "LightGreen"
  | rgb r g b => "#" ++ hexByte r ++ hexByte g ++ hexByte b

end Color

/-- How a piece of text looks; what is not set is left as it is. -/
structure Style where
  foreground : Option Color := none
  background : Option Color := none
  isBold : Bool := false
  isItalic : Bool := false
  deriving DecidableEq, Repr, Inhabited

namespace Style

/-- The style with all that another one sets. -/
def patch (style other : Style) : Style where
  foreground := other.foreground.or style.foreground
  background := other.background.or style.background
  isBold := style.isBold || other.isBold
  isItalic := style.isItalic || other.isItalic

/-- Text in a colour. -/
def colored (color : Color) : Style := { foreground := some color }

def bold : Style := { isBold := true }

def italic : Style := { isItalic := true }

end Style

/-- A piece of text in one style. -/
structure Span where
  text : String
  style : Style := {}
  deriving DecidableEq, Repr

/-- A line of text. -/
structure Line where
  spans : List Span
  /-- The style beneath the styles of the pieces. -/
  style : Style := {}
  deriving DecidableEq, Repr

namespace Line

/-- A line with the given text; line ends in it are left out. -/
def ofText (text : String) : Line :=
  { spans := (Text.lines text).map fun piece => { text := piece } }

def styled (line : Line) (style : Style) : Line :=
  { line with style := line.style.patch style }

end Line

end ContainerBoard
