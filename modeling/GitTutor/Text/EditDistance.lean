/-!
The distance between two texts in single-character insertions, deletions and substitutions.

The table of distances is filled row by row: a row belongs to a start of the first text, its
cells to the starts of the second.
-/

namespace GitTutor.Text

/-- The cells of the next row after its first, which is `left`. `above` starts over the cell
`left`, so its first two cells are the ones diagonal to and over the next cell. -/
def rowAfter (c : Char) (left : Nat) : List Char → List Nat → List Nat
  | d :: ds, diagonal :: up :: above =>
    let cell := min (diagonal + if c = d then 0 else 1) (min (up + 1) (left + 1))
    cell :: rowAfter c cell ds (up :: above)
  | _, _ => []

def nextRow (b : List Char) (above : List Nat) (c : Char) : List Nat :=
  match above with
  | [] => []
  | up :: _ => (up + 1) :: rowAfter c (up + 1) b above

def firstRow (b : List Char) : List Nat := List.range (b.length + 1)

def editDistance (a b : List Char) : Nat :=
  ((a.foldl (nextRow b) (firstRow b)).getLast?).getD 0

end GitTutor.Text
