import Authorship.Text.Quoted

namespace Authorship.Files

inductive Reason
  | missing
  | exists
  | notDirectory
  | isDirectory
  | nameTooLong
deriving Repr, DecidableEq

namespace Reason

def number : Reason → Nat
  | .missing => 2
  | .exists => 17
  | .notDirectory => 20
  | .isDirectory => 21
  | .nameTooLong => 36

def text : Reason → String
  | .missing => "No such file or directory"
  | .exists => "File exists"
  | .notDirectory => "Not a directory"
  | .isDirectory => "Is a directory"
  | .nameTooLong => "File name too long"

end Reason

inductive Fault
  | unusable (reason : Reason) (path : String)
  | embeddedNul
  | noHome
deriving Repr, DecidableEq

def Fault.message : Fault → String
  | .unusable reason path =>
    "[Errno " ++ reason.number.repr ++ "] " ++ reason.text ++ ": " ++ Text.quoted path
  | .embeddedNul => "embedded null byte"
  | .noHome => "Could not determine home directory."

end Authorship.Files
