import Authorship.Command.Options
import Authorship.Files.Path
import Authorship.Number.Integer
import Authorship.Number.Reading

namespace Authorship.Command

open Authorship.Number

/-- What the arguments say about an option that takes one value. -/
inductive Choice (α : Type)
  | absent
  /-- The option is there without a value. -/
  | blank
  | given (value : α)
deriving Repr, DecidableEq

namespace Choice

variable {α : Type}

def isAbsent : Choice α → Bool
  | .absent => true
  | _ => false

def valueOr (choice : Choice α) (standard : α) : Option α :=
  match choice with
  | .absent => some standard
  | .blank => none
  | .given value => some value

def ofValues (read : String → Except UsageFault α) : List String → Except UsageFault (Choice α)
  | [] => .ok .blank
  | text :: _ => (read text).map .given

end Choice

def pathChoice (values : List String) : Except UsageFault (Choice Files.Path) :=
  Choice.ofValues (fun text => .ok (.ofText text)) values

def integerChoice (option : String) (values : List String) : Except UsageFault (Choice Int) :=
  Choice.ofValues (fun text =>
    match readInteger text.toList with
    | .ok n => .ok n
    | .error _ => .error (.badValue option "int" text)) values

def numberChoice (option : String) (values : List String) :
    Except UsageFault (Choice Binary64) :=
  Choice.ofValues (fun text =>
    match readBinary64? text.toList with
    | some number => .ok number
    | none => .error (.badValue option "float" text)) values

end Authorship.Command
