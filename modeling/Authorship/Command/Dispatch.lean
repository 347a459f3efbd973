import Authorship.Command.Dump
import Authorship.Command.Run
import Authorship.Command.Stats

namespace Authorship.Command

inductive Name
  | run
  | dump
  | stats
deriving Repr, DecidableEq

def Name.program : Name → String
  | .run => "gista"
  | .dump => "gista dump"
  | .stats => "gista stats"

def choose : List String → Name × List String
  | "dump" :: rest => (.dump, rest)
  | "stats" :: rest => (.stats, rest)
  | "run" :: rest => (.run, rest)
  | arguments => (.run, arguments)

def asksHelp (arguments : List String) : Bool :=
  arguments.head? == some "-h" || arguments.head? == some "--help"

def commandHelp : String := "\n".intercalate [
  "", "commands:",
  "  run     Interpret a gista script (default).",
  "  dump    Write the raw log-stats dump of a git repository.",
  "  stats   Print per-author statistics for a raw log dump.",
  "", "Run `gista <command> --help` for command-specific options.", ""]

def Name.command (name : Name) (surroundings : Surroundings) (arguments : List String) : Report :=
  match name with
  | .run => Run.command surroundings arguments
  | .dump => Dump.command surroundings arguments
  | .stats => Stats.command surroundings arguments

def report (surroundings : Surroundings) (arguments : List String) : Report :=
  if asksHelp arguments then .plain surroundings (.finished 0) commandHelp ""
  else
    let (name, rest) := choose arguments
    name.command surroundings rest

/-- What is said about a stop, without a newline at the end. -/
def stopText (arguments : List String) : Stop → String
  | .help => ""
  | .misuse fault => (choose arguments).1.program ++ ": error: " ++ fault.message

def Stop.code : Stop → Nat
  | .help => 0
  | .misuse _ => 2

end Authorship.Command
