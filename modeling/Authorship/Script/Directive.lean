import Authorship.Activity.AuthorChart
import Authorship.Script.Argument
import Authorship.Script.Session

namespace Authorship.Script

open Authorship.Drawing Authorship.Activity

inductive Directive
  | aliasList
  | load
  | days
  | skipCommit
  | includeList
  | includeClear
  | excludeList
  | excludeClear
  | excludeRemove
  | figure
  | subplot
  | plot
  | save
  | title
deriving Repr, DecidableEq

def Directive.ofToken? (token : String) : Option Directive :=
  match token with
  | ":alias" => some .aliasList
  | ":load" => some .load
  | ":days" => some .days
  | ":skip-commit" => some .skipCommit
  | ":include" => some .includeList
  | ":include-clear" => some .includeClear
  | ":exclude" => some .excludeList
  | ":exclude-clear" => some .excludeClear
  | ":exclude-remove" => some .excludeRemove
  | ":figure" => some .figure
  | ":subplot" => some .subplot
  | ":plot" => some .plot
  | ":save" => some .save
  | ":title" => some .title
  | _ => none

def Directive.hasList : Directive → Bool
  | .aliasList | .includeList | .excludeList | .excludeRemove => true
  | _ => false

open Authorship.Script.Action

def resolvePath (setup : Setup) (text : String) : Except Failure Files.Path :=
  match (Files.Path.ofText text).expandHome setup.machine.home? with
  | .ok path => .ok (setup.baseDir.join path)
  | .error fault => .error (.files fault)

/-- Makes the raw identities of the list aliases of an author. -/
def aliasAuthor : Action Unit := do
  let canonical ← consume
  let raws ← readList
  setState fun state => { state with aliases := state.aliases.register canonical raws }

/-- Loads the history that a log file tells, with the aliases of the moment. -/
def loadLog (setup : Setup) : Action Unit := do
  let path ← attempt (resolvePath setup (← consume))
  let files := (← get).files
  let isFile ← attempt ((files.isFile setup.machine.workDir path).mapError .files)
  if !isFile then complain (.noSuchFile path.text)
  else do
    tell setup (.loadingLog path.text)
    let content ← attempt ((files.read setup.machine.workDir path).mapError .files)
    let aliases := (← state).aliases
    let history ←
      attempt ((Log.readContent setup.machine.dates aliases content).mapError .log)
    setState fun state => { state with history := some history }
    tell setup (.loaded history.commits.size history.authors.size history.files.size)

def setDays : Action Unit := do
  let days ← ofComplaint (readNumber (← consume))
  setState fun state => { state with days := some days }

def setSkip : Action Unit := do
  let skip ← ofComplaint (readWhole (← consume))
  setState fun state => { state with skip := some skip }

def includeFiles : Action Unit := do
  let items ← readList
  setState fun state => { state with included := state.included ++ items }

def excludeFiles : Action Unit := do
  let items ← readList
  setState fun state => { state with excluded := state.excluded ++ items }

/-- Takes every occurrence of the items of a list off the excluded texts. -/
def removeExcluded : Action Unit := do
  let items ← readList
  setState fun state =>
    { state with excluded := state.excluded.filter (!items.contains ·) }

def closeFigure (setup : Setup) : Option Figure → Action Unit
  | some figure => call setup (.close figure)
  | none => pure ()

def closeTarget (setup : Setup) : Action Unit := do
  closeFigure setup (← state).target.figure?
  setState fun state => { state with target := .absent }

/-- Makes a figure, whole or with a grid, before the one that was drawn on is closed. -/
def declareFigure (setup : Setup) : Action Unit := do
  let (width, height) ← ofComplaint (readPair "x" "WxH" (← consume))
  if (← get).cursor.hasToken then do
    let (rows, cols) ← ofComplaint (readPair "-" "rows-cols" (← consume))
    let figure ← newFigure setup (.newGrid width height rows cols)
    closeTarget setup
    setState fun state => { state with target := .grid figure rows cols }
  else do
    let figure ← newFigure setup (.newFigure width height)
    closeTarget setup
    setState fun state => { state with target := .whole figure }

def selection (setup : Setup) (state : State) : Selection :=
  { excluded := state.excluded
    included := state.included
    days := state.days
    skip := state.skip
    now := setup.now.getD setup.machine.clock }

/-- The statistics that are asked for; all of them when none is. -/
def chosenStats (name : String) : List String → Except Complaint (List Stat)
  | [] => .ok Stat.all
  | keys => keys.mapM fun key =>
    match Stat.ofKey? key with
    | some stat => .ok stat
    | none => .error (.unknownStat key name)

def authorGrouping : String := "author"

def drawBars (setup : Setup) (figure : Figure) (cell : Option Cell) : Action Unit := do
  let name ← consume
  if name != authorGrouping then complain (.unknownGrouping name)
  else do
    let state ← state
    match state.history with
    | none => complain .noData
    | some history => do
      let chart ←
        attempt ((AuthorChart.ofHistory (selection setup state) history).mapError .activity)
      let keys ← consumeRest
      let stats ← ofComplaint (chosenStats name keys)
      call setup (.bars figure cell ⟨chart.labels, stats.map chart.series, state.title⟩)

def draw (setup : Setup) (figure : Figure) (cell : Option Cell) : Action Unit := do
  let kind ← consume
  if kind == "bars" then drawBars setup figure cell else complain (.unknownKind kind)

def drawCell (setup : Setup) : Action Unit := do
  let (row, col) ← ofComplaint (readPair "-" "row-col" (← consume))
  match (← state).target with
  | .grid figure rows cols =>
    let cell : Cell := ⟨row - 1, col - 1⟩
    if hasCell rows cols cell then draw setup figure (some cell)
    else complain (.outsideGrid row col rows cols)
  | _ => complain .needsGrid

def drawWhole (setup : Setup) : Action Unit := do
  match (← state).target with
  | .whole figure => draw setup figure none
  | _ => complain .needsWholeFigure

def saveFigure (setup : Setup) : Action Unit := do
  let path ← attempt (resolvePath setup (← consume))
  match (← state).target.figure? with
  | none => complain .nothingToSave
  | some figure => do
    call setup (.save figure path)
    tell setup (.saved path.text)

def setTitle : Action Unit := do
  let title ← consume
  setState fun state => { state with title := some title }

def Directive.run (setup : Setup) : Directive → Action Unit
  | .aliasList => aliasAuthor
  | .load => loadLog setup
  | .days => setDays
  | .skipCommit => setSkip
  | .includeList => includeFiles
  | .includeClear => setState fun state => { state with included := [] }
  | .excludeList => excludeFiles
  | .excludeClear => setState fun state => { state with excluded := [] }
  | .excludeRemove => removeExcluded
  | .figure => declareFigure setup
  | .subplot => drawCell setup
  | .plot => drawWhole setup
  | .save => saveFigure setup
  | .title => setTitle

end Authorship.Script
