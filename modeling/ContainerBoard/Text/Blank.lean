import ContainerBoard.Text.Ranges

/-!
# Blank characters

Blanks are the characters with the Unicode property `White_Space`.  Values
read from the environment are trimmed of blanks on both sides, and dates may
carry blanks between their parts.
-/

namespace ContainerBoard.Text

/-- The code points with the property `White_Space`. -/
def blankRanges : Ranges :=
  [(0x9, 0xd), (0x20, 0x20), (0x85, 0x85), (0xa0, 0xa0), (0x1680, 0x1680),
   (0x2000, 0x200a), (0x2028, 0x2029), (0x202f, 0x202f), (0x205f, 0x205f),
   (0x3000, 0x3000)]

def isBlank (c : Char) : Bool :=
  blankRanges.has c

/-- The text without the blanks it begins with. -/
def trimStart (s : List Char) : List Char :=
  s.dropWhile isBlank

/-- The text without the blanks at its two ends. -/
def trim (s : List Char) : List Char :=
  (trimStart (trimStart s).reverse).reverse

/-- Whether the text holds nothing but blanks. -/
def isAllBlank (s : List Char) : Bool :=
  s.all isBlank

end ContainerBoard.Text
