import Authorship.Text.Quoted

namespace Authorship.Script

open Authorship.Text

inductive Complaint
  | endOfScript
  | endOfLine
  | missingArgument
  | notNumber (text : String)
  | notInteger (text : String)
  | notPair (form text : String)
  | notPositive (form text : String)
  | noSuchFile (path : String)
  | needsGrid
  | outsideGrid (row col rows cols : Nat)
  | needsWholeFigure
  | nothingToSave
  | unknownKind (kind : String)
  | unknownGrouping (name : String)
  | noData
  | unknownStat (stat name : String)
deriving Repr, DecidableEq

def Complaint.text : Complaint → String
  | .endOfScript => "EOF"
  | .endOfLine => "unexpected end of line"
  | .missingArgument => "missing argument"
  | .notNumber value => "expected a number, found " ++ quoted value
  | .notInteger value => "expected an integer, found " ++ quoted value
  | .notPair form value => "expected " ++ form ++ ", found " ++ quoted value
  | .notPositive form value => "expected positive " ++ form ++ ", found " ++ quoted value
  | .noSuchFile path => "File '" ++ path ++ "' does not exist"
  | .needsGrid => ":subplot needs a grid declared with :figure WxH rows-cols"
  | .outsideGrid row col rows cols =>
    "subplot " ++ row.repr ++ "-" ++ col.repr ++ " is outside the " ++ rows.repr ++ "-" ++
      cols.repr ++ " grid"
  | .needsWholeFigure => ":plot needs a figure declared with :figure WxH"
  | .nothingToSave => "nothing to save; declare a :figure first"
  | .unknownKind kind => "unknown plot kind " ++ quoted kind
  | .unknownGrouping name => "unknown cluster " ++ quoted name
  | .noData => "no data loaded; use :load first"
  | .unknownStat stat name => "unknown stat " ++ quoted stat ++ " for cluster " ++ quoted name

/-- A complaint about a line of a script, counted from 1; the source is the name of the script's
file, if it has one. -/
structure Fault where
  line : Nat
  complaint : Complaint
  source : String
deriving Repr, DecidableEq

def faultText (line complaint source : String) : String :=
  "Error @ line: " ++ line ++ (if source == "" then "" else " in file " ++ source) ++
    if complaint == "" then "" else " - " ++ complaint

def Fault.message (fault : Fault) : String :=
  faultText fault.line.repr fault.complaint.text fault.source

end Authorship.Script
