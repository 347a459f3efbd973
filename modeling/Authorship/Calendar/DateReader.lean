import Authorship.Calendar.Timestamp

namespace Authorship.Calendar

/-- Why a text gives no date. -/
inductive DateFault
  | refused (message : String)
  | failed (message : String)
deriving Repr, DecidableEq

namespace DateFault

def message : DateFault → String
  | .refused message => message
  | .failed message => message

def isRefusal : DateFault → Bool
  | .refused _ => true
  | .failed _ => false

end DateFault

/-- What reads the dates of a log. -/
abbrev DateReader := String → Except DateFault Timestamp

end Authorship.Calendar
