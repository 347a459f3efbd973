import Authorship.Drawing.Backend

namespace Authorship.Drawing

open Authorship.Number

/-- The axes of a figure as a library lists them. -/
structure Sheet where
  axes : Nat
  cols : Int
  fits : isIndex axes = true
deriving Repr, DecidableEq

namespace Sheet

/-- The number of the axes of a cell; a negative number counts from the end. -/
def axesAt (sheet : Sheet) (cell : Option Cell) : Except Fault Nat :=
  let count : Int := sheet.axes
  let index :=
    match cell with
    | none => 0
    | some cell => cell.row * sheet.cols + cell.col
  if 0 ≤ index && index < count then .ok index.toNat
  else if index < 0 && -count ≤ index then .ok (index + count).toNat
  else .error (if isIndex index then .noSuchAxes else .notIndex)

end Sheet

/-- A figure, and the strokes on its axes in their order. -/
structure Plot where
  dpi : Int
  /-- Width and height in inches. -/
  size : Binary64 × Binary64
  sheet : Sheet
  strokes : List (Nat × Stroke)

/-- A library for plots. -/
structure Plotter where
  /-- Makes a figure of a size in inches, with rows and columns of axes. -/
  sheet : (dpi : Int) → (size : Binary64 × Binary64) → (rows cols : Int) → Except Fault Sheet
  /-- Whether a stroke can be done on axes of a figure. -/
  grants : Plot → (place : Nat) → Stroke → Except Fault Unit
  /-- Lays a figure out and saves it. -/
  save : Plot → (workDir : List String) → Files.Path → Files.Tree → Except Failure Files.Tree

def inches (dpi pixels : Int) : Except Fault Binary64 :=
  if dpi == 0 then .error .zeroResolution
  else
    match Binary64.nearest (decide (dpi < 0)) ((pixels : Rat) / dpi) with
    | .infinite _ => .error .sizeTooLarge
    | size => .ok size

namespace Plotter

def newPlot (plotter : Plotter) (dpi width height rows cols : Int) : Except Fault Plot := do
  let size := (← inches dpi width, ← inches dpi height)
  let sheet ← plotter.sheet dpi size rows cols
  .ok ⟨dpi, size, sheet, []⟩

def stroke (plotter : Plotter) (place : Nat) (stroke : Stroke) :
    EStateM Failure Plot Unit := fun plot =>
  match plotter.grants plot place stroke with
  | .ok () => .ok () { plot with strokes := plot.strokes ++ [(place, stroke)] }
  | .error fault => .error (.drawing fault) plot

/-- Draws a chart on the axes of a cell; what is drawn stays when this fails. -/
def draw (plotter : Plotter) (cell : Option Cell) (chart : BarChart) :
    EStateM Failure Plot Unit := fun plot =>
  match plot.sheet.axesAt cell, chart.strokes with
  | .error fault, _ => .error (.drawing fault) plot
  | _, .error fault => .error (.activity fault) plot
  | .ok place, .ok strokes => strokes.forM (plotter.stroke place) plot

/-- What a call does to the figures, by their numbers. -/
def act (plotter : Plotter) (dpi : Int) : Call → EStateM Failure (List Plot) Unit
  | .newFigure width height => add width height 1 1
  | .newGrid width height rows cols => add width height rows cols
  | .bars figure cell chart => fun plots =>
    match plots[figure.number - 1]? with
    | none => .ok () plots
    | some plot =>
      match plotter.draw cell chart plot with
      | .ok () plot => .ok () (plots.set (figure.number - 1) plot)
      | .error failure plot => .error failure (plots.set (figure.number - 1) plot)
  | _ => pure ()
where
  add (width height rows cols : Int) : EStateM Failure (List Plot) Unit := fun plots =>
    match plotter.newPlot dpi width height rows cols with
    | .ok plot => .ok () (plots ++ [plot])
    | .error fault => .error (.drawing fault) plots

/-- The figures after attempts, whether these were granted or not. -/
def plotsAfter (plotter : Plotter) (dpi : Int) (attempts : List Attempt) : List Plot :=
  attempts.foldl (fun plots attempt =>
    match plotter.act dpi attempt.call plots with
    | .ok () plots => plots
    | .error _ plots => plots) []

def saveFigure (plotter : Plotter) (workDir : List String) (plots : List Plot) (figure : Figure)
    (path : Files.Path) (files : Files.Tree) : Except Failure Files.Tree :=
  match plots[figure.number - 1]? with
  | none => .ok files
  | some plot => do
    let files ← (files.makeDirectories workDir path.parent).mapError .files
    plotter.save plot workDir path files

def answer (plotter : Plotter) (dpi : Int) (workDir : List String) (attempts : List Attempt)
    (files : Files.Tree) (call : Call) : Except Failure Files.Tree :=
  match plotter.act dpi call (plotter.plotsAfter dpi attempts) with
  | .error failure _ => .error failure
  | .ok () plots =>
    match call with
    | .save figure path => plotter.saveFigure workDir plots figure path files
    | _ => .ok files

/-- The backend that draws with a library, with a number of pixels in an inch. -/
def backend (plotter : Plotter) (dpi : Option Int) (workDir : List String) : Backend :=
  ⟨fun attempts files call =>
    match dpi with
    | none => .error (.drawing .noResolution)
    | some dpi => plotter.answer dpi workDir attempts files call⟩

end Plotter

end Authorship.Drawing
