import Authorship.Calendar.DateReader
import Authorship.Number.Integer

namespace Authorship.DateText

inductive Fault
  | unknownFormat
  | noDate
  | noSuchMonth (month : Nat)
  | monthTooLong
  | yearOutOfRange (year : Int)
  | monthOutOfRange
  | dayOutOfRange
  | hourOutOfRange
  | minuteOutOfRange
  | secondOutOfRange
  | partTooLarge
  | partFarTooLarge
  | pastLastDay
  | yearBeforeCalendar
  | remainderImpossible
  | offsetTooLong (days : Int)
  | offsetFarTooLong
deriving Repr, DecidableEq

def Fault.message (text : String) : Fault → String
  | .unknownFormat => "Unknown string format: " ++ text
  | .noDate => "String does not contain a date: " ++ text
  | .noSuchMonth month => "bad month number " ++ month.repr ++ "; must be 1-12: " ++ text
  | .monthTooLong => Number.unwritableText
  | .yearOutOfRange year => "year " ++ toString year ++ " is out of range: " ++ text
  | .monthOutOfRange => "month must be in 1..12: " ++ text
  | .dayOutOfRange => "day is out of range for month: " ++ text
  | .hourOutOfRange => "hour must be in 0..23: " ++ text
  | .minuteOutOfRange => "minute must be in 0..59: " ++ text
  | .secondOutOfRange => "second must be in 0..59: " ++ text
  | .partTooLarge => "signed integer is greater than maximum"
  | .partFarTooLarge => "Python int too large to convert to C long"
  | .pastLastDay => "date value out of range"
  | .offsetTooLong days =>
    "days=" ++ toString days ++ "; must have magnitude <= 999999999"
  | .offsetFarTooLong => "Python int too large to convert to C int"
  | .yearBeforeCalendar => ""
  | .remainderImpossible => "[<class 'decimal.DivisionImpossible'>]"

/-- A computation that cannot be done is no fault of the text. -/
def Fault.toDateFault (text : String) (fault : Fault) : Calendar.DateFault :=
  match fault with
  | .remainderImpossible | .yearBeforeCalendar => .failed (fault.message text)
  | _ => .refused (fault.message text)

end Authorship.DateText
