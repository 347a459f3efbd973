import Authorship.Command.Report
import Authorship.Command.Value

namespace Authorship.Command.Dump

open Authorship.Repository

inductive Key
  | repo
  | out
  | allRefs
  | includeMerges
deriving Repr, DecidableEq

def declared : List (Declared Key) := [
  ⟨"--repo", .one, .repo⟩, ⟨"--out", .one, .out⟩, ⟨"--all", .none, .allRefs⟩,
  ⟨"--include-merges", .none, .includeMerges⟩]

structure Options where
  repo : Choice Files.Path
  out : Choice Files.Path
  allRefs : Bool
  includeMerges : Bool
deriving Repr, DecidableEq

def standard : Options := ⟨.absent, .absent, false, false⟩

/-- The directory whose repository is dumped; one that is left without a name is called `[]`. -/
def Options.directory (options : Options) : Files.Path :=
  (options.repo.valueOr (.ofText ".")).getD (.ofText "[]")

def take (option : Declared Key) (values : List String) (options : Options) :
    Except UsageFault Options :=
  match option.key with
  | .repo => (pathChoice values).map fun path => { options with repo := path }
  | .out => (pathChoice values).map fun path => { options with out := path }
  | .allRefs => .ok { options with allRefs := true }
  | .includeMerges => .ok { options with includeMerges := true }

def missing (options : Options) : List String :=
  if options.out.isAbsent then ["--out"] else []

def read (arguments : List String) : Except Stop Options :=
  readOptions declared take missing standard arguments

def successText (count : Nat) (out : Files.Path) : String :=
  "Wrote " ++ count.repr ++ " commits to " ++ out.text ++ "\n"

/-- Dumps the log and tells so; none when there is no repository. -/
def dump (options : Options) : Repository.Action (Option String) := do
  match ← topDirectory options.directory with
  | none => pure none
  | some top =>
    match options.out with
    | .given out =>
      return some (successText (← dumpLog top out options.allRefs options.includeMerges) out)
    | _ => throw .noOutput

def perform (surroundings : Surroundings) (options : Options) : Report :=
  let desk : Desk := ⟨surroundings.git, surroundings.machine.workDir, surroundings.files, []⟩
  let made (desk : Desk) (outcome : Outcome) (out err : String) : Report :=
    ⟨outcome, out, err, desk.files, none, desk.asked⟩
  match dump options desk with
  | .ok (some text) desk => made desk (.finished 0) text ""
  | .ok none desk =>
    made desk (.finished 1) "" ("Not a git repository: " ++ options.directory.text ++ "\n")
  | .error (.logFailed code complaint) desk =>
    made desk (.finished 1) "" ((Fault.logFailed code complaint).message ++ "\n")
  | .error fault desk => made desk (.failed (.repository fault)) "" ""

def command (surroundings : Surroundings) (arguments : List String) : Report :=
  match read arguments with
  | .error stop => .stopped surroundings stop
  | .ok options => perform surroundings options

end Authorship.Command.Dump
