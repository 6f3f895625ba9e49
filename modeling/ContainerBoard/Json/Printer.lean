import ContainerBoard.Json.Basic
import ContainerBoard.Number.Shortest

/-!
# Writing documents

`Json.text` writes a document on one line without spaces.  What could not be
read is written as `null`.
-/

namespace ContainerBoard.Json

/-- How a character is written inside a text.  Controls are spelled out as
four hexadecimal digits. -/
def escaped (c : Char) : String :=
  if c == '"' then "\\\""
  else if c == '\\' then "\\\\"
  else if c.toNat < 0x20 then
    "\\u00" ++ String.ofList [Nat.digitChar (c.toNat / 16), Nat.digitChar (c.toNat % 16)]
  else c.toString

/-- A text between its quotes. -/
def textBetweenQuotes (s : String) : String :=
  "\"" ++ String.join (s.toList.map escaped) ++ "\""

/-- A number; a negative one has its sign in front. -/
def numberText : JsonNumber → String
  | .int value => value.repr
  | .real negative magnitude => (if negative then "-" else "") ++ magnitude.shortest

mutual

def text : Json → String
  | .null => "null"
  | .bool value => if value then "true" else "false"
  | .number value => numberText value
  | .string value => textBetweenQuotes value
  | .array items _ => "[" ++ String.intercalate "," (itemTexts items) ++ "]"
  | .object members _ => "\x7b" ++ String.intercalate "," (memberTexts members) ++ "\x7d"
  | .unread => "null"
  | .broken => "null"

def itemTexts : List Json → List String
  | [] => []
  | item :: rest => text item :: itemTexts rest

def memberTexts : List (String × Json) → List String
  | [] => []
  | (name, value) :: rest => (textBetweenQuotes name ++ ":" ++ text value) :: memberTexts rest

end

end ContainerBoard.Json
