import Authorship.Activity.AuthorChart
import Authorship.Number.Integer
import Authorship.Text.LowerCase
import Authorship.Text.Piece

namespace Authorship.Activity

open Authorship.Number Authorship.Text

/-- The integer part of a number, in groups of three digits. -/
def wholeText (number : Binary64) : Except Fault String :=
  match number.toInteger truncate with
  | .ok n => .ok (groupedInt n)
  | .error fault => .error (.notIntegral fault)

def shorten (text : String) (size : Int) : String :=
  let chars := text.toList
  if (chars.length : Int) ≤ size then text
  else if size ≤ 1 then String.ofList (takeInt size chars)
  else String.ofList (takeInt (size - 1) chars) ++ "…"

def filledMarks (value largest : Binary64) (width : Int) : Except Fault Int :=
  if largest.le (.finite 0) then .ok 0
  else
    match Binary64.ofInt? width with
    | none => .error .tooLarge
    | some size =>
      match ((value.div largest).mul size).toInteger roundHalfEven with
      | .ok filled => .ok filled
      | .error fault => .error (.notIntegral fault)

def barText (value largest : Binary64) (width : Int) : Except Fault String := do
  let filled := max 0 (min width (← filledMarks value largest width))
  let full ← (count filled).mapError .uncountable
  let empty ← (count (width - filled)).mapError .uncountable
  .ok ("[" ++ "".pushn '#' full ++ "".pushn '-' empty ++ "]")

def tableHead : String :=
  padEnd 20 "Author" ++ " " ++ padStart 7 "Files" ++ " " ++ padStart 8 "Commits" ++ " " ++
    padStart 10 "Changed" ++ " " ++ padStart 10 "Added" ++ " " ++ padStart 10 "Removed"

/-- The order of rows: the larger value first, equal ones by the label in lower case. -/
def rowBefore (key : Stat) (a b : Entry) : Bool :=
  let (x, y) := (a.value key, b.value key)
  if x.eq y then
    !(lowerCase b.author.shortName < lowerCase a.author.shortName)
  else y.lt x

def rowText (key : Stat) (largest : Binary64) (entry : Entry) : Except Fault String := do
  let files ← wholeText (entry.value .filesChanged)
  let commits ← wholeText (entry.value .commits)
  let changed ← wholeText (entry.value .linesChanged)
  let added ← wholeText (entry.value .linesAdded)
  let deleted ← wholeText (entry.value .linesDeleted)
  let bar ← barText (entry.value key) largest 12
  .ok (padEnd 20 (shorten entry.author.shortName 20) ++ " " ++ padStart 7 files ++ " " ++
    padStart 8 commits ++ " " ++ padStart 10 changed ++ " " ++ padStart 10 added ++ " " ++
    padStart 10 deleted ++ "  " ++ bar)

namespace AuthorChart

/-- The entries in the order of their rows; a positive `top` limits their number. -/
def rows (chart : AuthorChart) (key : Stat) (top : Int) : List Entry :=
  let sorted := chart.entries.mergeSort (rowBefore key)
  if 0 < top then sorted.take top.toNat else sorted

def largest (key : Stat) (rows : List Entry) : Binary64 :=
  (rows.map (·.value key)).foldl (fun a b => if a.lt b then b else a)
    ((rows.head?.map (·.value key)).getD (.finite 0))

def tableLines (chart : AuthorChart) (key : Stat) (top : Int) : Except Fault (List String) := do
  let rows := chart.rows key top
  let lines ← rows.mapM (rowText key (largest key rows))
  .ok (tableHead :: "".pushn '-' 72 ::
    if rows.isEmpty then ["(no authors)"] else lines)

def table (chart : AuthorChart) (key : Stat) (top : Int) : Except Fault String :=
  (chart.tableLines key top).map ("\n".intercalate ·)

end AuthorChart

end Authorship.Activity
