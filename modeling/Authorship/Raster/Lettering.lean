import Authorship.Drawing.Plotter
import Authorship.Raster.Axes

namespace Authorship.Raster

open Authorship.Drawing

/-- The height in pixels of letters of a size in points, at a number of pixels in an inch. Letters
are measured in 64ths of a pixel before they are rounded. -/
def letterHeight (dpi points : Nat) : Nat :=
  ((points * 64 * dpi + 36) / 72 + 32) / 64

def labelPoints : Nat := 10

def smallPoints : Nat := 7

def titlePoints : Nat := 12

def letterFault? (dpi points : Nat) : Option Fault :=
  let height := letterHeight dpi points
  if height < 1 then some .lettersTooSmall
  else if 65535 < height then some .lettersTooLarge
  else none

def textFault? (dpi points : Nat) (text : String) : Option Fault :=
  if text == "" then none
  else letterFault? dpi points <|> (Formula.fault? text).map .formula

namespace Axes

/-- Whether a logarithmic scale has no bounds, because there are series without any bar. -/
def isUnbounded (axes : Axes) : Bool :=
  !axes.groups.isEmpty && axes.groups.all (·.bars.isEmpty)

def letteringFault? (dpi : Nat) (axes : Axes) : Option Fault :=
  axes.tickLabels.findSome? (textFault? dpi labelPoints)
    <|> (if axes.isUnbounded then some .noBounds else none)
    <|> letterFault? dpi labelPoints
    <|> (if axes.isLogarithmic then letterFault? dpi smallPoints else none)
    <|> textFault? dpi titlePoints axes.title

end Axes

/-- What is wrong with the lettering of a figure, axes by axes. Axes that were not drawn on have
only the numbers of their scales, so that the first axes tell for all of them. -/
def letteringFault? (plot : Plot) : Option Fault :=
  let drawn := ((0 :: plot.strokes.map (·.1)).eraseDups).mergeSort
  drawn.findSome? fun place =>
    (Axes.ofStrokes plot.strokes place).letteringFault? plot.dpi.toNat

end Authorship.Raster
