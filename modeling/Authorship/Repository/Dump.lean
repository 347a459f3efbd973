import Authorship.Files.Tree
import Authorship.Text.Blank
import Authorship.Text.Line
import Authorship.Text.Utf8

namespace Authorship.Repository

open Authorship.Text

structure Reply where
  out : List UInt8
  err : List UInt8
  code : Int
deriving Repr, DecidableEq

/-- The version control system: its answer to arguments in a directory, if it is installed. -/
structure Git where
  answer? : Option (List String → List String → Reply)

structure Question where
  place : List String
  arguments : List String
deriving Repr, DecidableEq

inductive Fault
  | files (fault : Files.Fault)
  | encoding (fault : Utf8.Malformed)
  | logFailed (code : Int) (complaint : String)
  | noOutput
deriving DecidableEq

def Fault.message : Fault → String
  | .files fault => fault.message
  | .encoding fault => fault.message
  | .logFailed code complaint => "git log exited " ++ toString code ++ ": " ++ complaint
  | .noOutput => "'list' object has no attribute 'parent'"

/-- The form of a summary in the log: e-mail, date, hash and subject after a NUL each. -/
def summaryForm : String := "%x00%ae%x00%ad%x00%H%x00%s"

def logCommand (allRefs includeMerges : Bool) : List String :=
  ["git", "log"] ++ (if includeMerges then [] else ["--no-merges"]) ++
    ["--numstat", "--date=iso-strict", "--pretty=format:" ++ summaryForm] ++
    if allRefs then ["--all"] else []

structure Desk where
  git : Git
  workDir : List String
  files : Files.Tree
  /-- The questions asked so far, the earliest first. -/
  asked : List Question

abbrev Action (α : Type) := EStateM Fault Desk α

namespace Action

def attempt {α : Type} (result : Except Fault α) : Action α := fun desk =>
  match result with
  | .ok value => .ok value desk
  | .error fault => .error fault desk

def ask (directory : Files.Path) (arguments : List String) : Action Reply := fun desk =>
  if directory.hasNul then .error (.files .embeddedNul) desk
  else
    let unusable (reason : Files.Reason) (path : String) : Fault :=
      .files (.unusable reason path)
    match desk.files.place desk.workDir directory with
    | .error reason => .error (unusable reason directory.text) desk
    | .ok place =>
      match desk.files.node? place with
      | none => .error (unusable .missing directory.text) desk
      | some .directory =>
        match desk.git.answer? with
        | none => .error (unusable .missing "git") desk
        | some answer =>
          .ok (answer place arguments)
            { desk with asked := desk.asked ++ [⟨place, arguments⟩] }
      | some _ => .error (unusable .notDirectory directory.text) desk

def textOf (output : List UInt8) : Action (List Char) :=
  attempt ((Utf8.decode? output).map unifyNewlines |>.mapError .encoding)

def setFiles (result : Files.Tree → Except Files.Fault Files.Tree) : Action Unit := do
  let files ← attempt ((result (← get).files).mapError .files)
  modify fun desk => { desk with files := files }

end Action

open Authorship.Repository.Action

def topDirectory (directory : Files.Path) : Action (Option Files.Path) := do
  let reply ← ask directory ["rev-parse", "--show-toplevel"]
  let out ← textOf reply.out
  let _ ← textOf reply.err
  let path := Files.Path.ofText (String.ofList (trim out))
  if reply.code != 0 || path.hasNul then pure none
  else pure (some (path.absolute ⟨.slash, (← get).workDir⟩))

def summaryCount (content : List UInt8) : Nat :=
  ((linesOf (unifyNewlines (Utf8.decodeReplacing content))).filter
    (·.head? == some '\x00')).length

def complaintLimit : Nat := 500

/-- Writes the log of a repository to a file; gives the number of commits. The file is there even
if there is no log to write. -/
def dumpLog (top out : Files.Path) (allRefs includeMerges : Bool) : Action Nat := do
  let workDir := (← get).workDir
  setFiles (·.makeDirectories workDir out.parent)
  setFiles (·.write workDir out (.file []))
  let reply ← ask top ((logCommand allRefs includeMerges).drop 1)
  setFiles (·.write workDir out (.file reply.out))
  let complaint ← textOf reply.err
  if reply.code != 0 then
    attempt (.error (.logFailed reply.code (String.ofList ((trim complaint).take complaintLimit))))
  else pure (summaryCount reply.out)

end Authorship.Repository
