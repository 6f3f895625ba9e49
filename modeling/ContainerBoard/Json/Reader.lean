import ContainerBoard.Json.Numeral

/-!
# Reading documents

`Json.read` turns a text into a value and the text that follows it.  Where
the text breaks off or goes wrong, the value ends: the enclosing arrays and
objects stay open and there is no text to go on with.
-/

namespace ContainerBoard.Json

/-- The text that follows a value, or nothing if the value is cut short. -/
abbrev Rest := Option (List Char)

/-- Spaces, tabs and line ends may stand between the parts of a document. -/
def isSpace (c : Char) : Bool :=
  c == ' ' || c == '\n' || c == '\t' || c == '\r'

/-- The text without the spaces in front. -/
def skipSpace (s : List Char) : List Char :=
  s.dropWhile isSpace

def readWord (word : List Char) (value : Json) (s : List Char) : Json × Rest :=
  if word.isPrefixOf s then (value, some (s.drop word.length)) else (.broken, none)

def hexDigit? (c : Char) : Option Nat :=
  if '0' ≤ c ∧ c ≤ '9' then some (c.toNat - '0'.toNat)
  else if 'a' ≤ c ∧ c ≤ 'f' then some (c.toNat - 'a'.toNat + 10)
  else if 'A' ≤ c ∧ c ≤ 'F' then some (c.toNat - 'A'.toNat + 10)
  else none

def hexUnit? (a b c d : Char) : Option Nat :=
  match hexDigit? a, hexDigit? b, hexDigit? c, hexDigit? d with
  | some a, some b, some c, some d => some (((a * 16 + b) * 16 + c) * 16 + d)
  | _, _, _, _ => none

/-- The character that a short escape stands for. -/
def shortEscape? (c : Char) : Option Char :=
  if c == '"' || c == '\\' || c == '/' then some c
  else if c == 'b' then some (Char.ofNat 8)
  else if c == 'f' then some (Char.ofNat 12)
  else if c == 'n' then some '\n'
  else if c == 'r' then some '\r'
  else if c == 't' then some '\t'
  else none

/-- A piece of a quoted text: a character, or one 16 bit unit of one. -/
inductive Piece where
  | char (c : Char)
  | unit (n : Nat)

/-- The pieces up to the closing quote, last one first, and the text after
it. -/
def readPieces (read : List Piece) : List Char → Option (List Piece × List Char)
  | [] => none
  | '"' :: rest => some (read, rest)
  | '\\' :: 'u' :: a :: b :: c :: d :: rest =>
    match hexUnit? a b c d with
    | some n => readPieces (.unit n :: read) rest
    | none => none
  | '\\' :: c :: rest =>
    match shortEscape? c with
    | some e => readPieces (.char e :: read) rest
    | none => none
  | c :: rest => if c.toNat < 0x20 || c == '\\' then none else readPieces (.char c :: read) rest

/-- The text of the pieces; a unit that is half of a character needs the
other half behind it. -/
def joinPieces : List Piece → Option (List Char)
  | [] => some []
  | .char c :: rest => (joinPieces rest).map (c :: ·)
  | .unit n :: rest =>
    if n < 0xd800 ∨ 0xe000 ≤ n then (joinPieces rest).map (Char.ofNat n :: ·)
    else if 0xdc00 ≤ n then none
    else
      match rest with
      | .unit low :: rest =>
        if 0xdc00 ≤ low ∧ low < 0xe000 then
          let code := 0x10000 + (n - 0xd800) * 0x400 + (low - 0xdc00)
          (joinPieces rest).map (Char.ofNat code :: ·)
        else none
      | _ => none

/-- Reads a text after its opening quote. -/
def readText (s : List Char) : Json × Rest :=
  match readPieces [] s with
  | none => (.broken, none)
  | some (pieces, rest) =>
    match joinPieces pieces.reverse with
    | some text => (.string (String.ofList text), some rest)
    | none => (.unread, some rest)

/-- The digits at the front of the text, and what follows them. -/
def readDigits (s : List Char) : List Nat × List Char :=
  ((s.takeWhile fun c => (digit? c).isSome).filterMap digit?,
    s.dropWhile fun c => (digit? c).isSome)

/-- Reads the exponent of a numeral, if there is one. -/
def readExponent (s : List Char) : Option (Option (Bool × List Nat) × List Char) :=
  match s with
  | [] => some (none, [])
  | c :: rest =>
    if c == 'e' || c == 'E' then
      let (down, rest) :=
        match rest with
        | '+' :: more => (false, more)
        | '-' :: more => (true, more)
        | more => (false, more)
      let (digits, rest) := readDigits rest
      if digits.isEmpty then none else some (some (down, digits), rest)
    else some (none, s)

/-- Reads the fraction of a numeral, if there is one. -/
def readPart (s : List Char) : Option (Option (List Nat) × List Char) :=
  match s with
  | '.' :: rest =>
    let (digits, rest) := readDigits rest
    if digits.isEmpty then none else some (some digits, rest)
  | _ => some (none, s)

/-- Reads a numeral after its sign. -/
def readNumeral (negative : Bool) (s : List Char) : Json × Rest :=
  match readDigits s with
  | ([], _) => (.broken, none)
  | (0 :: _ :: _, _) => (.broken, none)
  | (whole, rest) =>
    match readPart rest with
    | none => (.broken, none)
    | some (part, rest) =>
      match readExponent rest with
      | none => (.broken, none)
      | some (exponent, rest) =>
        match Numeral.value? ⟨negative, whole, part, exponent⟩ with
        | some n => (.number n, some rest)
        | none => (.unread, some rest)

mutual

def readValue : Nat → List Char → Json × Rest
  | 0, _ => (.broken, none)
  | fuel + 1, s =>
    match skipSpace s with
    | [] => (.broken, none)
    | c :: rest =>
      if c == 'n' then readWord "null".toList .null (c :: rest)
      else if c == 't' then readWord "true".toList (.bool true) (c :: rest)
      else if c == 'f' then readWord "false".toList (.bool false) (c :: rest)
      else if c == '"' then readText rest
      else if c == '-' then readNumeral true rest
      else if (digit? c).isSome then readNumeral false (c :: rest)
      else if c == '[' then
        match skipSpace rest with
        | ']' :: rest => (.array [] true, some rest)
        | rest => readItems fuel [] rest
      else if c == '\x7b' then
        match skipSpace rest with
        | '\x7d' :: rest => (.object [] true, some rest)
        | rest => readMembers fuel [] rest
      else (.broken, none)

/-- Reads the items of an array; those before are given last one first. -/
def readItems : Nat → List Json → List Char → Json × Rest
  | 0, read, _ => (.array read.reverse false, none)
  | fuel + 1, read, s =>
    match skipSpace s with
    | [] => (.array read.reverse false, none)
    | ']' :: _ => (.array read.reverse false, none)
    | c :: rest =>
      match readValue fuel (c :: rest) with
      | (item, none) => (.array (item :: read).reverse false, none)
      | (item, some rest) =>
        match skipSpace rest with
        | ',' :: rest => readItems fuel (item :: read) rest
        | ']' :: rest => (.array (item :: read).reverse true, some rest)
        | _ => (.array (item :: read).reverse false, none)

/-- Reads the members of an object; those before are given last one first. -/
def readMembers : Nat → List (String × Json) → List Char → Json × Rest
  | 0, read, _ => (.object read.reverse false, none)
  | fuel + 1, read, s =>
    match skipSpace s with
    | '"' :: rest =>
      match readText rest with
      | (.string name, some rest) =>
        match skipSpace rest with
        | ':' :: rest =>
          match readValue fuel rest with
          | (value, none) => (.object ((name, value) :: read).reverse false, none)
          | (value, some rest) =>
            match skipSpace rest with
            | ',' :: rest => readMembers fuel ((name, value) :: read) rest
            | '\x7d' :: rest => (.object ((name, value) :: read).reverse true, some rest)
            | _ => (.object ((name, value) :: read).reverse false, none)
        | _ => (.object ((name, .broken) :: read).reverse false, none)
      | _ => (.object read.reverse false, none)
    | _ => (.object read.reverse false, none)

end

/-- Reads the value at the front of the text.  Each step consumes a
character, so twice the length of the text is enough fuel. -/
def read (s : String) : Json × Rest :=
  let s := s.toList
  readValue (2 * s.length + 2) s

/-- Whether nothing but spaces is left after the value. -/
def ends : Rest → Bool
  | some rest => (skipSpace rest).isEmpty
  | none => false

end ContainerBoard.Json
