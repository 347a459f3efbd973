import Authorship.Number.Integer
import Authorship.Number.Reading
import Authorship.Script.Fault
import Authorship.Text.Piece

namespace Authorship.Script

open Authorship.Number Authorship.Text

def readNumber (text : String) : Except Complaint Binary64 :=
  match readBinary64? text.toList with
  | none | some .nan => .error (.notNumber text)
  | some number => .ok number

def readWhole (text : String) : Except Complaint Int :=
  match readInteger text.toList with
  | .ok n => .ok n
  | .error _ => .error (.notInteger text)

def halves? (mark text : List Char) : Option (String × String) :=
  match cutAt? mark text with
  | none => none
  | some (first, second) =>
    if (cutAt? mark second).isSome then none
    else some (String.ofList first, String.ofList second)

/-- Reads two positive integers with the mark between them; `form` is the name of the form. -/
def readPair (mark form text : String) : Except Complaint (Nat × Nat) :=
  match halves? mark.toList text.toList with
  | none => .error (.notPair form text)
  | some (first, second) => do
    let a ← readWhole first
    let b ← readWhole second
    if a < 1 || b < 1 then .error (.notPositive form text) else .ok (a.toNat, b.toNat)

end Authorship.Script
