import Authorship.Activity.Window
import Authorship.History.Basic

namespace Authorship.Activity

open Authorship.Calendar Authorship.Number

structure Selection where
  /-- A file whose path holds one of these texts does not count, -/
  excluded : List String
  /-- unless its path holds all of these texts, when there are any. -/
  included : List String
  /-- The days of the window; it need not be said unless a commit is measured. -/
  days : Option Binary64
  /-- How many of an author's oldest commits are passed over. -/
  skip : Option Int
  now : Timestamp

namespace Selection

/-- Whether a file counts; a moved file never does. -/
def admits (selection : Selection) (file : File) : Bool :=
  !file.isMove &&
    (selection.excluded.all (!Text.contains file.path ·) ||
      (!selection.included.isEmpty && selection.included.all (Text.contains file.path ·)))

def admitsChange (selection : Selection) (history : History) (change : Change) : Bool :=
  (history.files.get? change.file).any selection.admits

def windowHolds (selection : Selection) (timestamp : Timestamp) : Except Fault Bool :=
  match selection.days with
  | none => .error .noDays
  | some days => within timestamp days selection.now

/-- Whether a commit counts: it has changed a file that counts, within the window. -/
def qualifies (selection : Selection) (history : History) (commit : Commit) :
    Except Fault Bool :=
  match commit.timestamp with
  | none => .ok false
  | some timestamp =>
    if commit.changes.any (selection.admitsChange history) then
      selection.windowHolds timestamp
    else .ok false

def pick (selection : Selection) (history : History) : List Commit → Except Fault (List Commit)
  | [] => .ok []
  | commit :: rest => do
    let counts ← selection.qualifies history commit
    let picked ← selection.pick history rest
    .ok (if counts then commit :: picked else picked)

end Selection

/-- The position of a commit in time; only commits with a timestamp are picked. -/
def commitInstant (commit : Commit) : Int :=
  (commit.timestamp.map Timestamp.instant).getD 0

/-- Whether commits can be put in order: all their zones can be calculated with, or they all have
the same one. -/
def isSortable (commits : List Commit) : Bool :=
  let zones := commits.filterMap fun commit => commit.timestamp.map Timestamp.actualZone
  zones.all Zone.isUsable || zones.all (some · == zones.head?)

def sortCommits (commits : List Commit) : Except Fault (List Commit) :=
  if isSortable commits then
    .ok (commits.mergeSort fun a b => commitInstant a ≤ commitInstant b)
  else .error .unusableOffset

/-- The commits that count, the oldest of them passed over. -/
def Selection.qualifying (selection : Selection) (history : History) (commits : List Commit) :
    Except Fault (List Commit) := do
  let picked ← selection.pick history commits
  let sorted ← sortCommits picked
  match selection.skip with
  | none => .error .noSkip
  | some skip => .ok (sorted.drop skip.toNat)

end Authorship.Activity
