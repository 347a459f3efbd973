import Authorship.Script.Interpreter
import Authorship.Text.Line

namespace Authorship.Script

open Authorship.Calendar Authorship.Text

structure Request where
  path : Files.Path
  now : Option Timestamp
  days : Option Number.Binary64
  skip : Option Int
  quiet : Bool

namespace Request

def setup (request : Request) (machine : Machine) (backend : Drawing.Backend) : Setup :=
  { machine := machine
    backend := backend
    baseDir := (request.path.absolute machine.here).parent
    source := request.path.text
    now := request.now
    quiet := request.quiet }

def lines (request : Request) (machine : Machine) (files : Files.Tree) :
    Except Failure (List String) := do
  let content ← (files.read machine.workDir request.path).mapError .files
  let text ← (Utf8.decode? content).mapError .encoding
  .ok ((scriptLines (unifyNewlines text)).map String.ofList)

/-- Runs the script file; nothing is told before it has been read. -/
def run (request : Request) (machine : Machine) (backend : Drawing.Backend)
    (files : Files.Tree) : EStateM.Result Failure Session Unit :=
  let setup := request.setup machine backend
  let session := Session.start setup files request.days request.skip
  match request.lines machine files with
  | .error failure => .error failure session
  | .ok lines =>
    let action := do
      Action.tell setup (.loadingScript request.path.text)
      closingAfter setup (interpret setup lines)
    action session

end Request

end Authorship.Script
