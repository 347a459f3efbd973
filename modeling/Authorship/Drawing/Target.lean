namespace Authorship.Drawing

/-- A figure, known by its number; the first one is number 1. -/
structure Figure where
  number : Nat
deriving Repr, DecidableEq

structure Cell where
  row : Int
  col : Int
deriving Repr, DecidableEq

def hasCell (rows cols : Int) (cell : Cell) : Bool :=
  0 ≤ cell.row && cell.row < rows && 0 ≤ cell.col && cell.col < cols

inductive Target
  | absent
  | whole (figure : Figure)
  | grid (figure : Figure) (rows cols : Nat)
deriving Repr, DecidableEq

def Target.figure? : Target → Option Figure
  | .absent => none
  | .whole figure => some figure
  | .grid figure _ _ => some figure

end Authorship.Drawing
