import Authorship.Json.Reading
import Authorship.Settings.Fault
import Authorship.Text.Line

namespace Authorship

open Authorship.Number Authorship.Text

structure Settings where
  script : Files.Path
  dpi : Int
  days : Binary64
  skip : Int
deriving DecidableEq

namespace Settings

def defaultScript : String := "gista.cfg"

def defaultFile : String := "gista.json"

def standard : Settings := ⟨.ofText defaultScript, 100, .finite 10000, 0⟩

def typeName : Json → String
  | .null => "NoneType"
  | .list _ => "list"
  | _ => "dict"

def toInteger : Json → Except Fault Int
  | .bool value => .ok (if value then 1 else 0)
  | .integer value => .ok value
  | .number value => (value.toInteger truncate).mapError .notIntegral
  | .string value =>
    match readInteger (plainChars value) with
    | .ok n => .ok n
    | .error .notInteger => .error (.badText .integer value)
    | .error (.tooManyDigits count) => .error (.tooManyDigits count)
  | value => .error (.badType .integer (typeName value))

def toNumber : Json → Except Fault Binary64
  | .bool value => .ok (.finite (if value then 1 else 0))
  | .integer value =>
    match Binary64.ofInt? value with
    | some number => .ok number
    | none => .error .tooLarge
  | .number value => .ok value
  | .string value =>
    match readBinary64? (plainChars value) with
    | some number => .ok number
    | none => .error (.badText .number value)
  | value => .error (.badType .number (typeName value))

def memberOr {α : Type} (config : Json) (name : String) (convert : Json → Except Fault α)
    (value : α) : Except Fault α :=
  match config.member? name with
  | none => .ok value
  | some member => convert member

/-- The name of the user whose home a relative path starts at; it follows a tilde. -/
def userOf? (path : List Symbol) : Option (List Symbol) :=
  if path.head? == some (.char '/') then none
  else
    match (path.splitOnP (· == .char '/')).filter fun part =>
      part != [] && part != [.char '.'] with
    | (.char '~' :: user) :: _ => some user
    | _ => none

/-- What keeps the name of a user in a path from being looked up. -/
def unencodableUser? : Json → Option Unencodable
  | .string path => (userOf? path).bind (unencodableFrom? 0)
  | _ => none

/-- The script of a configuration. A relative path that is given is seen from the base directory,
if there is one; an empty value means the default script. -/
def scriptOf (home? : String → Option Files.Path) (baseDir : Option Files.Path) (config : Json) :
    Except Fault Files.Path :=
  let given := config.member? "script"
  let name := match given with
    | some value => if value.isPresent then value.shown else defaultScript
    | none => defaultScript
  match given.bind unencodableUser? with
  | some half => .error (.encoding (.unencodable half))
  | none =>
    match (Files.Path.ofText name).expandHome home? with
    | .error fault => .error (.files fault)
    | .ok path =>
      match baseDir, given with
      | some base, some _ => .ok (base.join path)
      | _, _ => .ok path

def ofJson (home? : String → Option Files.Path) (baseDir : Option Files.Path) (config : Json) :
    Except Fault Settings := do
  let script ← scriptOf home? baseDir config
  let dpi ← memberOr config "dpi" toInteger standard.dpi
  let days ← memberOr config "days" toNumber standard.days
  let skip ← memberOr config "skip_commits" toInteger standard.skip
  .ok ⟨script, dpi, days, skip⟩

/-- The object that a document holds; `path` is the name of its file. -/
def objectOf (path : String) (content : List UInt8) : Except Fault Json :=
  match Utf8.decode? content with
  | .error fault => .error (.encoding (.malformed fault))
  | .ok text =>
    let document := unifyNewlines text
    match Json.read document with
    | .error fault => .error (.json document fault)
    | .ok (.object members) => .ok (.object members)
    | .ok _ => .error (.notObject path)

def load (files : Files.Tree) (workDir : List String) (path : Files.Path) :
    Except Fault Json := do
  match ← (files.find workDir path).mapError .files with
  | none => .ok (.object [])
  | some _ =>
    let content ← (files.read workDir path).mapError .files
    objectOf path.text content

def ofFile (home? : String → Option Files.Path) (files : Files.Tree) (workDir : List String)
    (path : Files.Path) : Except Fault Settings := do
  let config ← load files workDir path
  if path.hasNul then .error (.files .embeddedNul)
  else ofJson home? (some (path.absolute ⟨.slash, workDir⟩).parent) config

end Settings

end Authorship
