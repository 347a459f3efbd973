import Authorship.Calendar.Date

namespace Authorship.Calendar

structure WallTime where
  date : Date
  hour : Nat
  minute : Nat
  second : Nat
  microsecond : Nat
deriving Repr, DecidableEq

/-- A zone: the name it was given, if any, and its distance east of universal time in seconds. -/
structure Zone where
  name : Option String
  offset : Int
deriving Repr, DecidableEq

def Zone.universal : Zone := ⟨none, 0⟩

/-- An offset can be calculated with when it is shorter than a day. -/
def Zone.isUsable (zone : Zone) : Bool :=
  -86400 < zone.offset && zone.offset < 86400

structure Timestamp where
  wall : WallTime
  zone : Option Zone
deriving Repr, DecidableEq

namespace WallTime

/-- The microseconds since the beginning of the day before day 1. -/
def ticks (wall : WallTime) : Int :=
  ((((wall.date.ordinal * 24 + wall.hour) * 60 + wall.minute) * 60 + wall.second) * 1000000 +
    wall.microsecond : Nat)

end WallTime

namespace Timestamp

def actualZone (ts : Timestamp) : Zone :=
  ts.zone.getD .universal

/-- The position in time, in microseconds of universal time. -/
def instant (ts : Timestamp) : Int :=
  ts.wall.ticks - ts.actualZone.offset * 1000000

def isUsable (ts : Timestamp) : Bool :=
  ts.actualZone.isUsable

/-- The date in universal time: that of the wall, unless the zone's distance leads past
midnight. -/
def universalDate (ts : Timestamp) : Date :=
  let wall := ts.wall
  let seconds : Int := ((wall.hour * 60 + wall.minute) * 60 + wall.second : Nat)
  match (seconds - ts.actualZone.offset).fdiv 86400 with
  | .ofNat days => wall.date.after days
  | .negSucc days => wall.date.before (days + 1)

def ofEpoch (microseconds : Nat) : Timestamp :=
  let seconds := microseconds / 1000000
  let date := Date.after ⟨1970, 1, 1⟩ (seconds / 86400)
  ⟨⟨date, seconds / 3600 % 24, seconds / 60 % 60, seconds % 60, microseconds % 1000000⟩,
    some .universal⟩

end Timestamp

end Authorship.Calendar
