import ContainerBoard.Input.Key

/-!
# Keys as the terminal sends them

A character key sends its character, and a key without one sends a control
character or a sequence that begins with escape.
-/

namespace ContainerBoard.KeyEvent

/-- The key of a control character.  Letters are sent this way when the
control key is held down. -/
def ofControl (code : Nat) : KeyEvent :=
  if code = 9 then { code := .tab }
  else if code = 10 || code = 13 then { code := .enter }
  else if code = 27 then { code := .esc }
  else
    { code := .char (Char.ofNat (code + 0x60))
      modifiers := { control := true } }

def ofChar (c : Char) : KeyEvent :=
  if c.toNat = 0x7f then { code := .backspace }
  else if c.toNat < 0x20 then ofControl c.toNat
  else { code := .char c }

/-- The keys that send escape, a bracket and a letter. -/
def ofFinal? (c : Char) : Option KeyCode :=
  [('A', KeyCode.up), ('B', .down), ('C', .right), ('D', .left), ('F', .last), ('H', .home),
   ('Z', .backTab)].lookup c

/-- The keys of the characters that the terminal sent together. -/
def ofChars : List Char → List KeyEvent
  | [] => []
  | '\x1b' :: '[' :: c :: rest =>
    match ofFinal? c with
    | some code => { code } :: ofChars rest
    | none => ofChars rest
  | c :: rest => ofChar c :: ofChars rest

end ContainerBoard.KeyEvent
