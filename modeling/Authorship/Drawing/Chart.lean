import Authorship.Activity.AuthorChart
import Authorship.Number.Shortest

namespace Authorship.Drawing

open Authorship.Number Authorship.Activity

/-- The room of all bars at one label; half of it lies before the tick. -/
def groupWidth : Binary64 := .ofRat (4 / 5)

def places (count : Nat) : List Binary64 :=
  (List.range count).map fun (i : Nat) => .ofRat i

def barWidth (count : Nat) : Binary64 :=
  groupWidth.div (.ofRat count)

def offsets (count : Nat) : List Binary64 :=
  (places count).map (barWidth count).mul

/-- The width of a bar, and how far the bars of each series are moved to the right. -/
def barOffsets (count : Int) : Except Activity.Fault (Binary64 × List Binary64) :=
  if count ≤ 0 then .ok (groupWidth, [])
  else (rounded count).map fun _ => (barWidth count.toNat, offsets count.toNat)

structure BarChart where
  labels : List String
  series : List Series
  title : Option String
deriving DecidableEq

/-- What a library for plots is asked to do on axes. -/
inductive Stroke
  | bars (places values : List Binary64) (width : Binary64) (label : String)
  | barTexts (texts : List String)
  | logScale
  | ticks (places : List Binary64)
  | tickLabels (texts : List String)
  | legend
  | title (text : String)
deriving DecidableEq

def annotation (value : Binary64) : String :=
  if value.isPositive then value.briefText else ""

namespace BarChart

def seriesStrokes (labelPlaces : List Binary64) (width : Binary64) (series : Series)
    (offset : Binary64) : List Stroke :=
  [.bars (labelPlaces.map (·.add offset)) series.values width series.label,
    .barTexts (series.values.map annotation)]

def strokes (chart : BarChart) : Except Activity.Fault (List Stroke) :=
  let labelPlaces := places chart.labels.length
  (barOffsets chart.series.length).map fun (width, offsets) =>
    (chart.series.zip offsets).flatMap (fun (series, offset) =>
        seriesStrokes labelPlaces width series offset) ++
      [.logScale, .ticks (labelPlaces.map (·.add (groupWidth.div (.finite 2)))),
        .tickLabels chart.labels] ++
      (if chart.series.isEmpty then [] else [.legend]) ++ [.title (chart.title.getD "")]

end BarChart

end Authorship.Drawing
