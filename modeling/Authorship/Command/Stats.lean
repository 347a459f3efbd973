import Authorship.Activity.Table
import Authorship.Command.Report
import Authorship.Command.Value

namespace Authorship.Command.Stats

open Authorship.Number Authorship.Activity

inductive Key
  | log
  | config
  | days
  | skip
  | excluded
  | included
  | alias
  | sortBy
  | top
deriving Repr, DecidableEq

def declared : List (Declared Key) := [
  ⟨"--log", .one, .log⟩, ⟨"--config", .one, .config⟩, ⟨"--days", .one, .days⟩,
  ⟨"--skip", .one, .skip⟩, ⟨"--exclude", .several, .excluded⟩,
  ⟨"--include", .several, .included⟩, ⟨"--alias", .one, .alias⟩, ⟨"--sort-by", .one, .sortBy⟩,
  ⟨"--top", .one, .top⟩]

structure Options where
  log : Choice Files.Path
  config : Choice Files.Path
  days : Choice Binary64
  skip : Choice Int
  excluded : List String
  included : List String
  /-- The aliases as they are written, in their order, as far as there is something written. -/
  aliases : List (Option String)
  sortBy : Choice Stat
  top : Choice Int
deriving DecidableEq

def standard : Options :=
  ⟨.absent, .absent, .absent, .absent, [], [], [], .absent, .absent⟩

def statChoice (option : String) (values : List String) : Except UsageFault (Choice Stat) :=
  Choice.ofValues (fun text =>
    match Stat.ofKey? text with
    | some stat => .ok stat
    | none => .error (.badChoice option text (Stat.all.map Stat.key))) values

def take (option : Declared Key) (values : List String) (options : Options) :
    Except UsageFault Options :=
  match option.key with
  | .log => (pathChoice values).map fun path => { options with log := path }
  | .config => (pathChoice values).map fun path => { options with config := path }
  | .days => (numberChoice option.name values).map fun x => { options with days := x }
  | .skip => (integerChoice option.name values).map fun n => { options with skip := n }
  | .excluded => .ok { options with excluded := values }
  | .included => .ok { options with included := values }
  | .alias => .ok { options with aliases := options.aliases ++ [values.head?] }
  | .sortBy => (statChoice option.name values).map fun stat => { options with sortBy := stat }
  | .top => (integerChoice option.name values).map fun n => { options with top := n }

def missing (options : Options) : List String :=
  if options.log.isAbsent then ["--log"] else []

def read (arguments : List String) : Except Stop Options :=
  readOptions declared take missing standard arguments

/-- Registers an alias that is written with an equals sign between raw and canonical identity. -/
def setAlias (aliases : Aliases) (value : String) : Except UsageFault Aliases :=
  let (raw, canonical) := cutAtEquals value
  let raw := Text.trim raw.toList
  match canonical.map fun text => Text.trim text.toList with
  | none => .error (.badAlias value)
  | some canonical =>
    if raw.isEmpty || canonical.isEmpty then .error (.badAlias value)
    else .ok (aliases.set (String.ofList raw) (String.ofList canonical))

/-- Registers the aliases one by one; the first that is wrong ends the command. -/
def readAliases (values : List (Option String)) : Except Outcome Aliases :=
  values.foldlM (fun aliases value =>
    match value with
    | none => .error (.failed (.lack .alias))
    | some value => (setAlias aliases value).mapError (.stopped ∘ .misuse)) .empty

def selection (machine : Machine) (options : Options) (settings : Settings) : Selection :=
  { excluded := options.excluded
    included := options.included
    days := options.days.valueOr settings.days
    skip := options.skip.valueOr settings.skip
    now := machine.clock }

def chart (machine : Machine) (options : Options) (settings : Settings) (aliases : Aliases)
    (content : List UInt8) : Except Authorship.Failure AuthorChart := do
  let history ← (Log.readContent machine.dates aliases content).mapError .log
  (AuthorChart.ofHistory (selection machine options settings) history).mapError .activity

def table (options : Options) (chart : AuthorChart) : Except Failure String := do
  let top ← need .rowLimit (options.top.valueOr 0)
  let key ← need .sortKey (options.sortBy.valueOr .linesChanged)
  (chart.table key top).mapError .activity

def report (surroundings : Surroundings) (options : Options) :
    Except Authorship.Failure AuthorChart → Report
  | .error failure =>
    if failure.isDiagnostic then .diagnostic surroundings failure.message
    else .failed surroundings (.script failure)
  | .ok chart =>
    match table options chart with
    | .error failure => .failed surroundings failure
    | .ok text => .plain surroundings (.finished 0) (text ++ "\n") ""

def perform (surroundings : Surroundings) (options : Options) : Report :=
  surroundings.withFile (options.log.valueOr (.ofText ".")) .log fun log =>
    surroundings.withSettings options.config fun settings =>
      match readAliases options.aliases with
      | .error outcome => .plain surroundings outcome "" ""
      | .ok aliases =>
        match surroundings.files.read surroundings.machine.workDir log with
        | .error fault => .failed surroundings (.files fault)
        | .ok content =>
          report surroundings options
            (chart surroundings.machine options settings aliases content)

def command (surroundings : Surroundings) (arguments : List String) : Report :=
  match read arguments with
  | .error stop => .stopped surroundings stop
  | .ok options => perform surroundings options

end Authorship.Command.Stats
