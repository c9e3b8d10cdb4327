import LicenseForge.Text.Basic

/-!
# Edit distance

`Text.distance` counts the insertions, deletions and substitutions of one character that turn a
text into another. It fills a table row by row, and keeps only the last row: cell `j` of the row
for the start `a` of the first text is the distance of `a` to the first `j` characters of the
second.
-/

namespace LicenseForge.Text

/-- The cells of a row to the right of a cell `left`, for the character `x`. The row above starts
with the cell above `left`. -/
def cellsAfter (x : Char) : Nat → Text → List Nat → List Nat
  | left, y :: b, diagonal :: above :: row =>
    let cell := min (min (above + 1) (left + 1)) (diagonal + if x = y then 0 else 1)
    cell :: cellsAfter x cell b (above :: row)
  | _, _, _ => []

/-- The row for a text that has one more character, `x`, than the text of the row above. -/
def nextRow (b : Text) (row : List Nat) (x : Char) : List Nat :=
  let left := row.headD 0 + 1
  left :: cellsAfter x left b row

/-- The row for the empty text. -/
def firstRow (b : Text) : List Nat := List.range (b.length + 1)

/-- The row for `a`. -/
def lastRow (a b : Text) : List Nat := a.foldl (nextRow b) (firstRow b)

/-- The edit distance of two texts. -/
def distance (a b : Text) : Nat := (lastRow a b).getLastD 0

end LicenseForge.Text
