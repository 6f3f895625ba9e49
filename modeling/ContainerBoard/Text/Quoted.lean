import ContainerBoard.Text.Extending
import ContainerBoard.Text.Hidden

/-!
# Quoted text

Messages that repeat a value from outside put it between double quotes and
spell out what would not show.  The common controls have short forms, a
quote and a backslash are preceded by a backslash, and other characters
without a printed form of their own, combining marks included, are written
as their code point in hexadecimal digits.
-/

namespace ContainerBoard.Text

/-- The spelled-out form of a character by its code point. -/
def codePointForm (c : Char) : String :=
  "\\u\x7b" ++ String.ofList (Nat.toDigits 16 c.toNat) ++ "\x7d"

/-- How a character is written between double quotes. -/
def quotedChar (c : Char) : String :=
  if c == '\t' then "\\t"
  else if c == '\n' then "\\n"
  else if c == '\r' then "\\r"
  else if c == '"' then "\\\""
  else if c == '\\' then "\\\\"
  else if c.toNat == 0 then "\\0"
  else if isExtending c || isHidden c then codePointForm c
  else c.toString

/-- The text between double quotes. -/
def quoted (s : String) : String :=
  "\"" ++ String.join (s.toList.map quotedChar) ++ "\""

end ContainerBoard.Text
