/-!
# Columns of text

Rows of the list screens are built from columns of a fixed width.  Widths
count code points.  A text that is longer than its column is kept whole.
-/

namespace ContainerBoard.Text

/-- A text of `n` spaces. -/
def spaces (n : Nat) : String :=
  String.ofList (List.replicate n ' ')

/-- The text at the left of a column of width `n`. -/
def padRight (n : Nat) (s : String) : String :=
  s ++ spaces (n - s.length)

/-- The text at the right of a column of width `n`. -/
def padLeft (n : Nat) (s : String) : String :=
  spaces (n - s.length) ++ s

/-- A number with at least `n` digits, filled with zeros at the left. -/
def zeroPadded (n : Nat) (k : Nat) : String :=
  let digits := k.repr
  String.ofList (List.replicate (n - digits.length) '0') ++ digits

/-- The lines of a text: it is cut at every line feed, a carriage return
before the line feed goes with it, and nothing follows a last line feed. -/
def lines (s : String) : List String :=
  let cut := cutAtLineFeed s.toList
  cut.map String.ofList
where
  /-- The pieces between line feeds. -/
  cutAtLineFeed : List Char → List (List Char)
    | [] => []
    | '\n' :: rest => [] :: cutAtLineFeed rest
    | '\r' :: '\n' :: rest => [] :: cutAtLineFeed rest
    | c :: rest =>
      match rest, cutAtLineFeed rest with
      | [], _ => [[c]]
      | _ :: _, [] => [[c]]
      | _ :: _, piece :: pieces => (c :: piece) :: pieces

end ContainerBoard.Text
