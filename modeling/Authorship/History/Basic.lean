import Authorship.Calendar.Timestamp
import Authorship.History.Registry
import Authorship.Text.Piece

namespace Authorship

open Authorship.Calendar

structure Author where
  name : String
deriving Repr, DecidableEq

def Author.shortName (author : Author) : String :=
  String.ofList (author.name.toList.takeWhile (· != '@'))

structure File where
  path : String
deriving Repr, DecidableEq

def File.isMove (file : File) : Bool :=
  Text.contains file.path " => "

structure Change where
  file : Handle File
  adds : Int
  deletes : Int
deriving Repr, DecidableEq

def Change.changed (change : Change) : Int :=
  change.adds + change.deletes

structure Commit where
  hash : String
  author : Option (Handle Author)
  timestamp : Option Timestamp
  summary : String
  changes : List Change
deriving Repr, DecidableEq

instance : Entity Author := ⟨Author.name, Author.mk⟩

instance : Entity File := ⟨File.path, File.mk⟩

instance : Entity Commit := ⟨Commit.hash, fun hash => ⟨hash, none, none, "", []⟩⟩

structure History where
  files : Registry File
  authors : Registry Author
  commits : Registry Commit
deriving Repr

namespace History

def empty : History := ⟨.empty, .empty, .empty⟩

def requestFile (history : History) (path : String) : Handle File × History :=
  let (file, files) := history.files.request path
  (file, { history with files := files })

def requestAuthor (history : History) (name : String) : Handle Author × History :=
  let (author, authors) := history.authors.request name
  (author, { history with authors := authors })

def requestCommit (history : History) (hash : String) : Handle Commit × History :=
  let (commit, commits) := history.commits.request hash
  (commit, { history with commits := commits })

def modifyCommit (history : History) (commit : Handle Commit) (change : Commit → Commit) :
    History :=
  { history with commits := history.commits.modify commit change }

def addChange (history : History) (commit : Handle Commit) (path : String)
    (adds deletes : Int) : History :=
  let (file, history) := history.requestFile path
  history.modifyCommit commit fun entry =>
    { entry with changes := entry.changes ++ [⟨file, adds, deletes⟩] }

def setAuthor (history : History) (commit : Handle Commit) (name : String) : History :=
  let (author, history) := history.requestAuthor name
  history.modifyCommit commit fun entry => { entry with author := some author }

def setTimestamp (history : History) (commit : Handle Commit) (timestamp : Timestamp) :
    History :=
  history.modifyCommit commit fun entry => { entry with timestamp := some timestamp }

def setSummary (history : History) (commit : Handle Commit) (summary : String) : History :=
  history.modifyCommit commit fun entry => { entry with summary := summary }

def pathOf (history : History) (change : Change) : String :=
  ((history.files.get? change.file).map File.path).getD ""

def isMove (history : History) (change : Change) : Bool :=
  (history.files.get? change.file).any File.isMove

def authorName? (history : History) (commit : Commit) : Option String :=
  (commit.author.bind history.authors.get?).map Author.name

def authorsByName (history : History) : List (Handle Author × Author) :=
  (history.authors.handles.zip history.authors.items).mergeSort
    fun a b => !(b.2.name < a.2.name)

end History

end Authorship
