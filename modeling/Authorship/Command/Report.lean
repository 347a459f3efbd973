import Authorship.Command.Value
import Authorship.Repository.Dump
import Authorship.Script.Session
import Authorship.Settings.Basic

namespace Authorship.Command

structure Surroundings where
  machine : Machine
  files : Files.Tree
  git : Repository.Git
  /-- The backend of a resolution, which need not be said. -/
  backend : Option Int → Drawing.Backend

inductive Lack
  | settingsFile
  | script
  | log
  | alias
  | rowLimit
  | sortKey
deriving Repr, DecidableEq

def Lack.message : Lack → String
  | .settingsFile => "'list' object has no attribute 'exists'"
  | .script | .log => "'list' object has no attribute 'is_file'"
  | .alias => "'list' object has no attribute 'partition'"
  | .rowLimit =>
    "int() argument must be a string, a bytes-like object or a real number, not 'list'"
  | .sortKey => "[] is not in list"

/-- What ends a command without a diagnostic of its own. -/
inductive Failure
  | lack (missing : Lack)
  | script (failure : Authorship.Failure)
  | settings (fault : Settings.Fault)
  | repository (fault : Repository.Fault)
  | activity (fault : Activity.Fault)
  | files (fault : Files.Fault)

def Failure.message : Failure → String
  | .lack missing => missing.message
  | .script failure => failure.message
  | .settings fault => fault.message
  | .repository fault => fault.message
  | .activity fault => fault.message
  | .files fault => fault.message

def need {α : Type} (lack : Lack) : Option α → Except Failure α
  | some value => .ok value
  | none => .error (.lack lack)

inductive Outcome
  | finished (code : Nat)
  /-- The command has stopped before it did anything. -/
  | stopped (stop : Stop)
  | failed (failure : Failure)

/-- What a command has drawn: the resolution and the calls to the backend. -/
structure Drawn where
  dpi : Option Int
  calls : List Drawing.Call

structure Report where
  outcome : Outcome
  out : String
  err : String
  files : Files.Tree
  drawn : Option Drawn
  asked : List Repository.Question

namespace Report

def plain (surroundings : Surroundings) (outcome : Outcome) (out err : String) : Report :=
  ⟨outcome, out, err, surroundings.files, none, []⟩

def stopped (surroundings : Surroundings) (stop : Stop) : Report :=
  plain surroundings (.stopped stop) "" ""

def failed (surroundings : Surroundings) (failure : Failure) : Report :=
  plain surroundings (.failed failure) "" ""

def diagnostic (surroundings : Surroundings) (text : String) : Report :=
  plain surroundings (.finished 1) "" (text ++ "\n")

def missingFile (surroundings : Surroundings) (path : Files.Path) : Report :=
  diagnostic surroundings ("File '" ++ path.text ++ "' does not exist")

end Report

namespace Surroundings

def withFile (surroundings : Surroundings) (path : Option Files.Path) (lack : Lack)
    (next : Files.Path → Report) : Report :=
  match path with
  | none => .failed surroundings (.lack lack)
  | some path =>
    match surroundings.files.isFile surroundings.machine.workDir path with
    | .error fault => .failed surroundings (.files fault)
    | .ok false => .missingFile surroundings path
    | .ok true => next path

/-- Goes on with the settings in a file, which is the default one unless another is chosen. -/
def withSettings (surroundings : Surroundings) (choice : Choice Files.Path)
    (next : Settings → Report) : Report :=
  let machine := surroundings.machine
  match choice.valueOr (.ofText Settings.defaultFile) with
  | none => .failed surroundings (.lack .settingsFile)
  | some path =>
    match Settings.ofFile machine.home? surroundings.files machine.workDir path with
    | .ok settings => next settings
    | .error fault =>
      if fault.isReported then
        .diagnostic surroundings ("Invalid config " ++ path.text ++ ": " ++ fault.message)
      else .failed surroundings (.settings fault)

end Surroundings

end Authorship.Command
