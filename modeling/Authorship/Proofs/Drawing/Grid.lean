import Authorship.Drawing.Plotter
import Authorship.Proofs.Activity.Qualifying
import Authorship.Raster.Plotter
import Mathlib.Algebra.Order.Ring.Int
import Mathlib.Tactic.Linarith

namespace Authorship.Drawing

open Authorship.Number

/-- Where the axes of a cell stand, if they stand row by row. -/
def Cell.place (cols : Int) (cell : Cell) : Nat :=
  (cell.row * cols + cell.col).toNat

namespace Sheet.IsGrid

variable {sheet : Sheet} {rows cols : Int} {cell other : Cell}

end Sheet.IsGrid

end Authorship.Drawing

namespace Authorship.Raster

open Authorship.Number Authorship.Drawing

end Authorship.Raster
