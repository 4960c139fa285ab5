/-
The distance between texts.

`distance a b` is the least number of characters to insert, delete or change to make `b` of `a`. It is
computed row by row: a row holds the distances of one start of `a` to all starts of `b`.
-/
namespace Reshape.Text

/-- The row after the character `c`, from the row before it. `left` is the entry just made. -/
def rowStep {α : Type} [DecidableEq α] (c : α) (left : Nat) : List α → List Nat → List Nat
  | d :: b, diagonal :: above :: row =>
    let entry := min (min (diagonal + if c = d then 0 else 1) (above + 1)) (left + 1)
    entry :: rowStep c entry b (above :: row)
  | _, _ => []

/-- The next row. -/
def nextRow {α : Type} [DecidableEq α] (b : List α) (row : List Nat) (c : α) : List Nat :=
  let first := row.headD 0 + 1
  first :: rowStep c first b row

/-- The row of the empty text. -/
def firstRow {α : Type} (b : List α) : List Nat :=
  List.range (b.length + 1)

def distance {α : Type} [DecidableEq α] (a b : List α) : Nat :=
  (a.foldl (nextRow b) (firstRow b)).getLastD 0

end Reshape.Text
