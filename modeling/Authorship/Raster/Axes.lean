import Authorship.Drawing.Chart
import Authorship.Raster.Fault

namespace Authorship.Raster

open Authorship.Number Authorship.Drawing

structure BarGroup where
  label : String
  bars : List (Binary64 × Binary64)
deriving DecidableEq

structure Axes where
  groups : List BarGroup
  annotations : List String
  ticks : List Binary64
  tickLabels : List String
  isLogarithmic : Bool
  legend : Option (List String)
  title : String
deriving DecidableEq

namespace Axes

def empty : Axes := ⟨[], [], [], [], false, none, ""⟩

def bars (places values : List Binary64) : Except Fault (List (Binary64 × Binary64)) :=
  match places, values with
  | [place], values => .ok (values.map (place, ·))
  | places, [value] => .ok (places.map (·, value))
  | places, values =>
    if places.length == values.length then .ok (places.zip values)
    else .error (.shapeMismatch places.length values.length)

def groupLabel (label : String) (others : Nat) : String :=
  if label == "" then "_container" ++ others.repr else label

/-- A group appears in the legend unless its label starts with an underscore, which hides it. -/
def isListed (label : String) : Bool :=
  label.toList.head? != some '_'

def annotationTexts (texts : List String) (bars : List (Binary64 × Binary64)) : List String :=
  texts ++ (bars.drop texts.length).map fun bar =>
    if bar.2 == .nan then "" else bar.2.briefText

def latestBars (axes : Axes) : List (Binary64 × Binary64) :=
  (axes.groups.getLast?.map BarGroup.bars).getD []

/-- Bars and the texts above them pile up, all else is replaced. A zero height has no sign. -/
def stroke (axes : Axes) : Stroke → Except Fault Axes
  | .bars places values _ label =>
    (bars places (values.map (·.add (.finite 0)))).map fun bars =>
      { axes with groups := axes.groups ++ [⟨groupLabel label axes.groups.length, bars⟩] }
  | .barTexts texts =>
    if axes.latestBars.length < texts.length then .error .noBar
    else .ok { axes with
      annotations := axes.annotations ++ annotationTexts texts axes.latestBars }
  | .logScale => .ok { axes with isLogarithmic := true }
  | .ticks places => .ok { axes with ticks := places }
  | .tickLabels texts => .ok { axes with tickLabels := texts }
  | .legend =>
    .ok { axes with legend := some ((axes.groups.map BarGroup.label).filter isListed) }
  | .title text => .ok { axes with title := text }

/-- The axes at a place of a figure; a stroke that cannot be done leaves them as they are. -/
def ofStrokes (strokes : List (Nat × Stroke)) (place : Nat) : Axes :=
  strokes.foldl (fun axes (other, stroke) =>
    if other == place then (axes.stroke stroke).toOption.getD axes else axes) empty

end Axes

end Authorship.Raster
