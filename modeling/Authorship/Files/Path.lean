import Authorship.Files.Fault

namespace Authorship.Files

/-- Where a path starts; two slashes at the start are a root of their own. -/
inductive Root
  | relative
  | slash
  | doubleSlash
deriving Repr, DecidableEq

def Root.text : Root → String
  | .relative => ""
  | .slash => "/"
  | .doubleSlash => "//"

structure Path where
  root : Root
  parts : List String
deriving Repr, DecidableEq

namespace Path

def partsOf (text : List Char) : List String :=
  ((text.splitOnP (· == '/')).map String.ofList).filter fun part => part != "" && part != "."

def ofText (text : String) : Path :=
  let chars := text.toList
  let root := match (chars.takeWhile (· == '/')).length with
    | 0 => Root.relative
    | 2 => .doubleSlash
    | _ => .slash
  ⟨root, partsOf chars⟩

def isAbsolute (path : Path) : Bool :=
  path.root != .relative

def text (path : Path) : String :=
  let joined := "/".intercalate path.parts
  if path.root == .relative && path.parts.isEmpty then "." else path.root.text ++ joined

def join (base path : Path) : Path :=
  if path.isAbsolute then path else { base with parts := base.parts ++ path.parts }

def parent (path : Path) : Path :=
  { path with parts := path.parts.dropLast }

/-- Lets each double dot take back the part before it. -/
def settle (parts : List String) : List String :=
  parts.foldl (fun settled part => if part == ".." then settled.dropLast else settled ++ [part]) []

/-- The path from the one root, without double dots, seen from a working directory. -/
def absolute (path workDir : Path) : Path :=
  ⟨.slash, settle (workDir.join path).parts⟩

def hasNul (path : Path) : Bool :=
  path.parts.any fun part => part.toList.contains '\x00'

/-- Puts a home directory in the place of a first part that starts with a tilde. The name of the
user follows the tilde. -/
def expandHome (home? : String → Option Path) (path : Path) : Except Fault Path :=
  match path.root, path.parts with
  | .relative, first :: rest =>
    if !first.startsWith "~" then .ok path
    else
      let user := first.toList.drop 1
      if user.contains '\x00' then .error .embeddedNul
      else
        match home? (String.ofList user) with
        | none => .error .noHome
        | some home => .ok { home with parts := home.parts ++ rest }
  | _, _ => .ok path

end Path

end Authorship.Files
