import Authorship.Command.Report
import Authorship.Command.Value
import Authorship.Script.ScriptFile

namespace Authorship.Command.Run

open Authorship.Number

inductive Key
  | config
  | script
  | dpi
  | days
  | skip
  | quiet
deriving Repr, DecidableEq

def declared : List (Declared Key) := [
  ⟨"--config", .one, .config⟩, ⟨"--script", .one, .script⟩, ⟨"--dpi", .one, .dpi⟩,
  ⟨"--days", .one, .days⟩, ⟨"--skip", .one, .skip⟩, ⟨"--quiet", .none, .quiet⟩]

structure Options where
  config : Choice Files.Path
  script : Choice Files.Path
  dpi : Choice Int
  days : Choice Binary64
  skip : Choice Int
  quiet : Bool
deriving DecidableEq

def standard : Options := ⟨.absent, .absent, .absent, .absent, .absent, false⟩

def take (option : Declared Key) (values : List String) (options : Options) :
    Except UsageFault Options :=
  match option.key with
  | .config => (pathChoice values).map fun path => { options with config := path }
  | .script => (pathChoice values).map fun path => { options with script := path }
  | .dpi => (integerChoice option.name values).map fun n => { options with dpi := n }
  | .days => (numberChoice option.name values).map fun x => { options with days := x }
  | .skip => (integerChoice option.name values).map fun n => { options with skip := n }
  | .quiet => .ok { options with quiet := true }

def read (arguments : List String) : Except Stop Options :=
  readOptions declared take (fun _ => []) standard arguments

def report (dpi : Option Int)
    (result : EStateM.Result Authorship.Failure Script.Session Unit) : Report :=
  let made (session : Script.Session) (outcome : Outcome) (diagnostic : String) : Report :=
    { outcome := outcome
      out := Script.notesText (session.notes.filter (!·.isWarning))
      err := Script.notesText (session.notes.filter Script.Note.isWarning) ++ diagnostic
      files := session.files
      drawn := some ⟨dpi, session.calls⟩
      asked := [] }
  match result with
  | .ok () session => made session (.finished 0) ""
  | .error failure session =>
    if failure.isDiagnostic then made session (.finished 1) (failure.message ++ "\n")
    else made session (.failed (.script failure)) ""

def perform (surroundings : Surroundings) (options : Options) : Report :=
  surroundings.withSettings options.config fun settings =>
    surroundings.withFile (options.script.valueOr settings.script) .script fun script =>
      let dpi := options.dpi.valueOr settings.dpi
      let request : Script.Request :=
        { path := script
          now := none
          days := options.days.valueOr settings.days
          skip := options.skip.valueOr settings.skip
          quiet := options.quiet }
      report dpi
        (request.run surroundings.machine (surroundings.backend dpi) surroundings.files)

def command (surroundings : Surroundings) (arguments : List String) : Report :=
  match read arguments with
  | .error stop => .stopped surroundings stop
  | .ok options => perform surroundings options

end Authorship.Command.Run
