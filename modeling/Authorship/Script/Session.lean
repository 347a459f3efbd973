import Authorship.Drawing.Backend
import Authorship.History.Log
import Authorship.Script.Cursor
import Authorship.Script.Note

namespace Authorship

open Authorship.Calendar

structure Machine where
  clock : Timestamp
  dates : DateReader
  workDir : List String
  /-- The home directory of a user; the empty name is that of the user who runs the program. -/
  home? : String → Option Files.Path

def Machine.here (machine : Machine) : Files.Path :=
  ⟨.slash, machine.workDir⟩

end Authorship

namespace Authorship.Script

open Authorship.Calendar Authorship.Drawing

structure State where
  aliases : Aliases
  included : List String
  excluded : List String
  days : Option Number.Binary64
  skip : Option Int
  title : Option String
  history : Option History
  target : Target

structure Setup where
  machine : Machine
  backend : Backend
  /-- The directory that relative paths are seen from. -/
  baseDir : Files.Path
  source : String
  /-- The instant that the window is measured from, unless it is that of the clock. -/
  now : Option Timestamp
  quiet : Bool

structure Session where
  state : State
  cursor : Cursor
  files : Files.Tree
  attempts : List Attempt
  notes : List Note

def Session.calls (session : Session) : List Call :=
  granted session.attempts

def State.start (days : Option Number.Binary64) (skip : Option Int) : State :=
  ⟨.empty, [], [], days, skip, none, none, .absent⟩

def Session.start (setup : Setup) (files : Files.Tree) (days : Option Number.Binary64)
    (skip : Option Int) : Session :=
  ⟨.start days skip, .ofLines [] setup.source, files, [], []⟩

abbrev Action (α : Type) := EStateM Failure Session α

namespace Action

def final {α : Type} (action : Action α) (session : Session) : Session :=
  match action session with
  | .ok _ session => session
  | .error _ session => session

def attempt {α : Type} (result : Except Failure α) : Action α := fun session =>
  match result with
  | .ok value => .ok value session
  | .error failure => .error failure session

def setState (change : State → State) : Action Unit :=
  modify fun session => { session with state := change session.state }

def state : Action State :=
  Session.state <$> get

def complain {α : Type} (complaint : Complaint) : Action α := fun session =>
  .error (.script (session.cursor.fault complaint)) session

/-- Gives a value or complains about the latest line. -/
def ofComplaint {α : Type} : Except Complaint α → Action α
  | .ok value => pure value
  | .error complaint => complain complaint

def note (note : Note) : Action Unit :=
  modify fun session => { session with notes := session.notes ++ [note] }

def tell (setup : Setup) (message : Note) : Action Unit :=
  if setup.quiet then pure () else note message

/-- Takes the next token of the latest line. -/
def consume : Action String := fun session =>
  match session.cursor.consume with
  | .ok (token, cursor) => .ok token { session with cursor := cursor }
  | .error fault => .error (.script fault) session

/-- Takes all tokens of the latest line that are left. -/
def consumeRest : Action (List String) := fun session =>
  let (tokens, cursor) := session.cursor.consumeRest
  .ok tokens { session with cursor := cursor }

def readList : Action (List String) := fun session =>
  let (result, cursor) := session.cursor.readList
  match result with
  | .ok items => .ok items { session with cursor := cursor }
  | .error fault => .error (.script fault) { session with cursor := cursor }

def call (setup : Setup) (call : Call) : Action Unit := fun session =>
  let after (isGranted : Bool) : List Attempt := session.attempts ++ [⟨call, isGranted⟩]
  match setup.backend.answer session.attempts session.files call with
  | .ok files => .ok () { session with files := files, attempts := after true }
  | .error failure => .error failure { session with attempts := after false }

def newFigure (setup : Setup) (creation : Call) : Action Figure := do
  let figure := nextFigure (← get).calls
  call setup creation
  pure figure

end Action

end Authorship.Script
