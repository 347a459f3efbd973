import Authorship.Text.Quoted

namespace Authorship.Script

inductive Note
  | loadingScript (path : String)
  | loadingLog (path : String)
  | loaded (commits authors files : Nat)
  | saved (path : String)
  | unknownDirective (token : String) (line : Nat)
deriving Repr, DecidableEq

namespace Note

def text : Note → String
  | .loadingScript path => "Loading config '" ++ path ++ "'"
  | .loadingLog path => "Loading log '" ++ path ++ "'"
  | .loaded commits authors files =>
    "Loaded " ++ commits.repr ++ " commits, " ++ authors.repr ++ " authors, " ++ files.repr ++
      " files."
  | .saved path => "Saved " ++ path
  | .unknownDirective token line =>
    "Skipping unknown directive " ++ Text.quoted token ++ " @ line " ++ line.repr

/-- A warning is told even to those who want it quiet, and apart from the other notes. -/
def isWarning : Note → Bool
  | .unknownDirective _ _ => true
  | _ => false

end Note

def notesText (notes : List Note) : String :=
  String.join (notes.map fun note => note.text ++ "\n")

end Authorship.Script
