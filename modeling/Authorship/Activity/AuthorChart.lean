import Authorship.Activity.Selection

namespace Authorship.Activity

open Authorship.Number

/-- What is counted for each author, in drawing order. -/
inductive Stat
  | filesChanged
  | commits
  | linesChanged
  | linesAdded
  | linesDeleted
deriving Repr, DecidableEq

namespace Stat

def all : List Stat := [.filesChanged, .commits, .linesChanged, .linesAdded, .linesDeleted]

def key : Stat → String
  | .filesChanged => "files-changed"
  | .commits => "commits"
  | .linesChanged => "lines-changed"
  | .linesAdded => "lines-added"
  | .linesDeleted => "lines-deleted"

def label : Stat → String
  | .filesChanged => "Files changed"
  | .commits => "Commits"
  | .linesChanged => "Lines changed"
  | .linesAdded => "Lines added"
  | .linesDeleted => "Lines removed"

def ofKey? (key : String) : Option Stat :=
  all.find? (·.key == key)

end Stat

structure Totals where
  files : Nat
  commits : Nat
  adds : Int
  deletes : Int
deriving Repr, DecidableEq

namespace Totals

def value (totals : Totals) : Stat → Int
  | .filesChanged => totals.files
  | .commits => totals.commits
  | .linesChanged => totals.adds + totals.deletes
  | .linesAdded => totals.adds
  | .linesDeleted => totals.deletes

def ofCommits (selection : Selection) (history : History) (commits : List Commit) : Totals :=
  let changes := commits.flatMap fun commit =>
    commit.changes.filter (selection.admitsChange history)
  { files := (changes.map Change.file).eraseDups.length
    commits := commits.length
    adds := (changes.map Change.adds).foldr (· + ·) 0
    deletes := (changes.map Change.deletes).foldr (· + ·) 0 }

end Totals

def commitsOf (history : History) (author : Handle Author) : List Commit :=
  history.commits.items.filter (·.author == some author)

def totalsOf (selection : Selection) (history : History) (author : Handle Author) :
    Except Fault Totals :=
  (selection.qualifying history (commitsOf history author)).map
    (Totals.ofCommits selection history)

/-- A floating-point number as near as possible to a total. -/
def rounded (total : Int) : Except Fault Binary64 :=
  match Binary64.ofInt? total with
  | some value => .ok value
  | none => .error .tooLarge

structure Series where
  label : String
  values : List Binary64
deriving DecidableEq

/-- The activity of authors, who stand in the order of their names. -/
structure AuthorChart where
  authors : List (Handle Author × Author)
  opened : List (Stat × Series)

structure Entry where
  author : Author
  value : Stat → Binary64

namespace AuthorChart

def ofAuthors (history : History) : AuthorChart :=
  ⟨history.authorsByName, []⟩

def labels (chart : AuthorChart) : List String :=
  chart.authors.map (·.2.shortName)

def find? (chart : AuthorChart) (stat : Stat) : Option Series :=
  chart.opened.lookup stat

def openSeries (chart : AuthorChart) (stat : Stat) : AuthorChart :=
  if (chart.find? stat).isSome then chart
  else
    let zeros := List.replicate chart.authors.length (Binary64.finite 0)
    { chart with opened := chart.opened ++ [(stat, ⟨stat.label, zeros⟩)] }

def write (chart : AuthorChart) (stat : Stat) (place : Nat) (value : Binary64) : AuthorChart :=
  { chart with
    opened := chart.opened.map fun (key, series) =>
      (key, if key = stat then { series with values := series.values.set place value } else series) }

def writeTotal (totals : Totals) (place : Nat) (chart : AuthorChart) (stat : Stat) :
    Except Fault AuthorChart := do
  let value ← rounded (totals.value stat)
  .ok (chart.write stat place value)

def fill (chart : AuthorChart) (place : Nat) (totals : Totals) : Except Fault AuthorChart :=
  Stat.all.foldlM (writeTotal totals place) chart

def countFor (selection : Selection) (history : History) (chart : AuthorChart) :
    (Handle Author × Author) × Nat → Except Fault AuthorChart
  | ((author, _), place) => do
    let totals ← totalsOf selection history author
    chart.fill place totals

/-- Counts for one author after the other; what was written before is written over. -/
def crunch (selection : Selection) (history : History) (chart : AuthorChart) :
    Except Fault AuthorChart :=
  chart.authors.zipIdx.foldlM (countFor selection history) (Stat.all.foldl openSeries chart)

def crunchTimes (selection : Selection) (history : History) :
    Nat → AuthorChart → Except Fault AuthorChart
  | 0, chart => .ok chart
  | times + 1, chart => do (← chart.crunch selection history).crunchTimes selection history times

/-- The chart of the authors of a history, in which everything is counted. -/
def ofHistory (selection : Selection) (history : History) : Except Fault AuthorChart :=
  (ofAuthors history).crunch selection history

/-- The series of a statistic; it is empty before the series is opened. -/
def series (chart : AuthorChart) (stat : Stat) : Series :=
  (chart.find? stat).getD ⟨stat.label, []⟩

def entries (chart : AuthorChart) : List Entry :=
  chart.authors.zipIdx.map fun ((_, author), place) =>
    ⟨author, fun stat => (chart.series stat).values[place]?.getD (.finite 0)⟩

end AuthorChart

end Authorship.Activity
