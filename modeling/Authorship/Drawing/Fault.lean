import Authorship.Number.Count

namespace Authorship.Drawing

/-- What kind of fault a library reports. -/
inductive Trouble
  | badValue
  | tooLarge
  | noRoom
  | missingPart
  | broken
deriving Repr, DecidableEq

inductive Fault
  | zeroResolution
  | noResolution
  | sizeTooLarge
  | noSuchAxes
  | notIndex
  | library (trouble : Trouble) (message : String)
deriving Repr, DecidableEq

def Fault.message : Fault → String
  | .zeroResolution => "division by zero"
  | .noResolution => "unsupported operand type(s) for /: 'int' and 'list'"
  | .sizeTooLarge => "integer division result too large for a float"
  | .noSuchAxes => "list index out of range"
  | .notIndex => Number.CountFault.notIndex.message
  | .library _ message => message

end Authorship.Drawing
