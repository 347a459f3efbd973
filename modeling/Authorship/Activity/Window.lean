import Authorship.Activity.Fault
import Authorship.Calendar.Timestamp

namespace Authorship.Activity

open Authorship.Calendar Authorship.Number

/-- A length of time before now. -/
inductive Window
  | bounded (microseconds : Int)
  | immeasurable (isPositive : Bool)
deriving Repr, DecidableEq

def microsecondsPerDay : Nat := 86400000000

def longestDays : Nat := 999999999

namespace Window

/-- A number of days in microseconds. The fraction of a day is multiplied in floating point, and a
half microsecond goes to the even one. -/
def microseconds (days : Rat) : Int :=
  let whole := truncate days
  let fraction := Binary64.ofRat ((days - whole) * microsecondsPerDay)
  whole * microsecondsPerDay + roundHalfEven (fraction.value?.getD 0)

def isMeasurable (microseconds : Int) : Bool :=
  (microseconds.fdiv microsecondsPerDay).natAbs ≤ longestDays

def ofDays? (days : Binary64) : Except Fault Window :=
  match days with
  | .nan => .error (.notIntegral .nan)
  | .infinite negative => .ok (.immeasurable !negative)
  | .negativeZero => .ok (.bounded 0)
  | .finite value =>
    if isMeasurable (microseconds value) then .ok (.bounded (microseconds value))
    else .ok (.immeasurable (0 < value))

/-- Whether a timestamp lies in the window that ends now; only a bounded window looks at the
timestamp. -/
def holds (window : Window) (timestamp now : Timestamp) : Except Fault Bool :=
  match window with
  | .immeasurable isPositive => .ok isPositive
  | .bounded microseconds =>
    if timestamp.isUsable && now.isUsable then
      .ok (now.instant - timestamp.instant < microseconds)
    else .error .unusableOffset

end Window

def within (timestamp : Timestamp) (days : Binary64) (now : Timestamp) : Except Fault Bool := do
  (← Window.ofDays? days).holds timestamp now

end Authorship.Activity
