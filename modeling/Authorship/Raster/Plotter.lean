import Authorship.Drawing.Plotter
import Authorship.Raster.Lettering
import Authorship.Text.LowerCase

namespace Authorship.Raster

open Authorship.Number Authorship.Drawing

def gridShape (rows cols : Int) : Except Fault (Nat × Nat) :=
  if rows ≤ 0 then .error (.rowsNotPositive rows)
  else if cols ≤ 0 then .error (.columnsNotPositive cols)
  else do
    let rows ← (count rows).mapError .uncountable
    let cols ← (count cols).mapError .uncountable
    if roomLimit < rows * cols then .error (.uncountable .noRoom) else .ok (rows, cols)

def makeSheet (dpi : Int) (size : Binary64 × Binary64) (rows cols : Int) : Except Fault Sheet :=
  if size.1.lt (.finite 0) || size.2.lt (.finite 0) then .error (.sizeNotPositive size.1 size.2)
  else if (Binary64.ofInt? dpi).isNone then .error .resolutionTooLarge
  else do
    let (rows, cols) ← gridShape rows cols
    if h : isIndex (rows * cols : Nat) = true then .ok ⟨rows * cols, cols, h⟩
    else .error (.uncountable .noRoom)

def pixels (dpi : Int) (size : Binary64) : Except Fault Nat :=
  match (size.mul (.ofRat dpi)).toInteger roundHalfEven with
  | .ok n => .ok n.toNat
  | .error _ => .error .infiniteSize

/-- The part of a file name after its last dot; dots at the start of the name do not count. -/
def extension (name : String) : String :=
  let chars := name.toList.dropWhile (· == '.')
  if chars.contains '.' then String.ofList (chars.reverse.takeWhile (· != '.')).reverse else ""

/-- Where an image is saved, and in which format: a path without an extension gets that of the
default format. -/
def imageTarget (path : Files.Path) : Files.Path × String :=
  let name := path.parts.getLast?.getD ""
  if extension name == "" then
    let stem := String.ofList (Text.dropEnd (· == '.') name.toList)
    ({ path with parts := path.parts.dropLast ++ [stem ++ ".png"] }, "png")
  else (path, Text.lowerCase (extension name))

def imageLimit : Nat := 8388608

def imageSize (plot : Plot) (format : String) : Except Fault (Nat × Nat) := do
  let width ← pixels plot.dpi plot.size.1
  let height ← pixels plot.dpi plot.size.2
  if imageLimit ≤ width || imageLimit ≤ height then .error (.imageTooLarge width height)
  else
    match letteringFault? plot with
    | some fault => .error fault
    | none =>
      if !imageFormats.contains format then .error (.unknownFormat format)
      else if typesetFormats.contains format then .error .noTypesetter
      else .ok (width, height)

def save (plot : Plot) (workDir : List String) (path : Files.Path) (files : Files.Tree) :
    Except Failure Files.Tree := do
  let (target, format) := imageTarget path
  let (width, height) ← (imageSize plot format).mapError (.drawing ∘ Fault.toDrawing)
  (files.write workDir target (.image width height)).mapError .files

/-- A library for plots that draws no pixels. -/
def plotter : Plotter where
  sheet dpi size rows cols := (makeSheet dpi size rows cols).mapError Fault.toDrawing
  grants plot place stroke :=
    match (Axes.ofStrokes plot.strokes place).stroke stroke with
    | .ok _ => .ok ()
    | .error fault => .error fault.toDrawing
  save := save

end Authorship.Raster
