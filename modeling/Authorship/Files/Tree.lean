import Authorship.Files.Path

namespace Authorship.Files

inductive Node
  | directory
  | file (content : List UInt8)
  | image (width height : Nat)
deriving Repr, DecidableEq

def imageStart : List UInt8 := [0x89, 0x50, 0x4E, 0x47, 0x0D, 0x0A, 0x1A, 0x0A]

/-- Nodes by their places; a place is the list of the parts from the root. -/
structure Tree where
  entries : List (List String × Node)
deriving Repr, DecidableEq

namespace Tree

def node? (tree : Tree) (place : List String) : Option Node :=
  if place.isEmpty then some .directory else tree.entries.lookup place

def put (tree : Tree) (place : List String) (node : Node) : Tree :=
  ⟨(place, node) :: tree.entries.filter (·.1 != place)⟩

def putParents (tree : Tree) (place : List String) : Tree :=
  (List.range place.length).foldl (fun tree size => tree.put (place.take size) .directory) tree

def longestPart : Nat := 255

/-- The place that parts lead to from a directory; only the last part may be missing. -/
def walk (tree : Tree) (place : List String) : List String → Except Reason (List String)
  | [] => .ok place
  | part :: rest =>
    match tree.node? place with
    | none => .error .missing
    | some .directory =>
      if part == ".." then tree.walk place.dropLast rest
      else if longestPart < part.utf8ByteSize then .error .nameTooLong
      else tree.walk (place ++ [part]) rest
    | some _ => .error .notDirectory

def longestPath : Nat := 4095

def place (tree : Tree) (workDir : List String) (path : Path) : Except Reason (List String) :=
  if longestPath < path.text.utf8ByteSize then .error .nameTooLong
  else tree.walk (if path.isAbsolute then [] else workDir) path.parts

def look (tree : Tree) (workDir : List String) (path : Path) : Except Reason Node := do
  let place ← tree.place workDir path
  match tree.node? place with
  | some node => .ok node
  | none => .error .missing

/-- What stands at a path, if anything; a part that is no directory counts as nothing. -/
def find (tree : Tree) (workDir : List String) (path : Path) : Except Fault (Option Node) :=
  if path.hasNul then .ok none
  else
    match tree.look workDir path with
    | .ok node => .ok (some node)
    | .error .nameTooLong => .error (.unusable .nameTooLong path.text)
    | .error _ => .ok none

def isFile (tree : Tree) (workDir : List String) (path : Path) : Except Fault Bool :=
  (tree.find workDir path).map fun
    | some .directory | none => false
    | some _ => true

def isDirectory (tree : Tree) (workDir : List String) (path : Path) : Except Fault Bool :=
  (tree.find workDir path).map (· == some .directory)

/-- The content of the file at a path; of an image only the start is known. -/
def read (tree : Tree) (workDir : List String) (path : Path) : Except Fault (List UInt8) :=
  if path.hasNul then .error .embeddedNul
  else
    match tree.look workDir path with
    | .ok (.file content) => .ok content
    | .ok (.image _ _) => .ok imageStart
    | .ok .directory => .error (.unusable .isDirectory path.text)
    | .error reason => .error (.unusable reason path.text)

/-- Writes a file at a path whose directory exists. -/
def write (tree : Tree) (workDir : List String) (path : Path) (node : Node) :
    Except Fault Tree :=
  if path.hasNul then .error .embeddedNul
  else
    match tree.place workDir path with
    | .error reason => .error (.unusable reason path.text)
    | .ok place =>
      match tree.node? place with
      | some .directory => .error (.unusable .isDirectory path.text)
      | _ =>
        match tree.node? place.dropLast with
        | some .directory => .ok (tree.put place node)
        | some _ => .error (.unusable .notDirectory path.text)
        | none => .error (.unusable .missing path.text)

def makeOne (tree : Tree) (workDir : List String) (path : Path) : Except Reason Tree := do
  let place ← tree.place workDir path
  match tree.node? place with
  | some _ => .error .exists
  | none => .ok (tree.put place .directory)

def makeLast (tree : Tree) (workDir : List String) (path : Path) : Except Fault Tree :=
  match tree.makeOne workDir path with
  | .ok tree => .ok tree
  | .error reason => do
    if reason != .missing && (← tree.isDirectory workDir path) then .ok tree
    else .error (.unusable reason path.text)

/-- Makes a directory and those above it, `count` of them at most, as far as they are missing. -/
def makeUpTo (tree : Tree) (workDir : List String) (path : Path) : Nat → Except Fault Tree
  | 0 => tree.makeLast workDir path
  | count + 1 =>
    match tree.makeOne workDir path with
    | .error .missing => do
      if path.parent == path then tree.makeLast workDir path
      else (← tree.makeUpTo workDir path.parent count).makeLast workDir path
    | _ => tree.makeLast workDir path

def makeDirectories (tree : Tree) (workDir : List String) (path : Path) : Except Fault Tree :=
  if path.hasNul then .error .embeddedNul
  else tree.makeUpTo workDir path path.parts.length

end Tree

end Authorship.Files
