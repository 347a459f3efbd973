import Authorship.DateText.Draft
import Authorship.Calendar.Timestamp

namespace Authorship.DateText

open Authorship.Calendar

namespace Draft

def saysNothing (draft : Draft) (members : Members.Resolved) : Bool :=
  members == ⟨none, none, none⟩ && draft.weekday.isNone && draft.hour.isNone &&
    draft.minute.isNone && draft.second.isNone && draft.microsecond.isNone &&
    draft.zoneName.isNone && draft.zoneOffset.isNone && draft.dayHalf.isNone

def settleZone (draft : Draft) : Draft :=
  if (draft.zoneOffset == some 0 && draft.zoneName.getD "" == "") ||
      draft.zoneName == some "Z" || draft.zoneName == some "z" then
    { draft with zoneName := some "UTC", zoneOffset := some 0 }
  else if draft.zoneOffset != some 0 && draft.zoneName.any namesUniversal then
    { draft with zoneOffset := some 0 }
  else draft

/-- The zone of the timestamp; a name without an offset says nothing unless it is that of
universal time. -/
def zone (draft : Draft) : Except Fault (Option Zone) :=
  if draft.zoneName == some "UTC" then .ok (some .universal)
  else
    match draft.zoneOffset with
    | none => .ok none
    | some 0 => .ok (some .universal)
    | some offset =>
      let days := offset.fdiv 86400
      if days < -2147483648 || 2147483647 < days then .error .offsetFarTooLong
      else if days < -999999999 || 999999999 < days then .error (.offsetTooLong days)
      else .ok (some ⟨draft.zoneName, offset⟩)

end Draft

def checkSizes (parts : List Nat) : Except Fault Unit :=
  match parts with
  | [] => .ok ()
  | part :: rest =>
    if 2 ^ 63 ≤ part then .error .partFarTooLarge
    else if 2 ^ 31 ≤ part then .error .partTooLarge
    else checkSizes rest

/-- The day that goes with a month of which the text says no more: today's, or the last one of a
shorter month. -/
def defaultDay (today : Date) (year : Int) (month : Nat) : Except Fault Nat :=
  if month < 1 || 12 < month then
    .error (if Number.isUnwritable month then .monthTooLong else .noSuchMonth month)
  else .ok (min today.day (daysInMonth (gregorianYear year) month))

def checkYear (year : Int) : Except Fault Nat :=
  if year < 1 || 9999 < year then .error (.yearOutOfRange year) else .ok year.toNat

def checkRanges (wall : WallTime) : Except Fault WallTime :=
  let date := wall.date
  if date.month < 1 || 12 < date.month then .error .monthOutOfRange
  else if date.day < 1 || daysInMonth date.year date.month < date.day then .error .dayOutOfRange
  else if 23 < wall.hour then .error .hourOutOfRange
  else if 59 < wall.minute then .error .minuteOutOfRange
  else if 59 < wall.second then .error .secondOutOfRange
  else .ok wall

def forwardTo (weekday : Nat) (date : Date) : Except Fault Date :=
  let moved := date.after ((weekday + 7 - date.weekday) % 7)
  if 9999 < moved.year then .error .pastLastDay else .ok moved

def Draft.wallTime (draft : Draft) (today : Date) (members : Members.Resolved) :
    Except Fault WallTime := do
  let year := members.year.getD today.year
  let month := members.month.getD today.month
  let day ← match members.day with
    | some day => .ok day
    | none => defaultDay today year month
  let hour := draft.hour.getD 0
  let minute := draft.minute.getD 0
  let second := draft.second.getD 0
  checkSizes [year.toNat, month, day, hour, minute, second]
  let wall ← checkRanges
    ⟨⟨← checkYear year, month, day⟩, hour, minute, second, draft.microsecond.getD 0⟩
  match draft.weekday, members.day with
  | some weekday, none =>
    let date ← forwardTo weekday wall.date
    .ok { wall with date := date }
  | _, _ => .ok wall

/-- The members told apart, a year of two digits being made a full one. -/
def Draft.completeMembers (draft : Draft) (today : Date) : Except Fault Members.Resolved := do
  let members ← draft.members.resolve
  if members.year.any (· < 0) then .error .yearBeforeCalendar
  else
    .ok { members with
      year := members.year.map (Draft.fullYear today.year draft.members.hasCentury) }

/-- Reads a date text; `today` fills in what it leaves open. -/
def read (today : Date) (text : String) : Except Fault Timestamp := do
  let draft ← Draft.empty.readFrom today.year (tokens text).toArray 0
  let members ← draft.completeMembers today
  let draft := draft.settleZone
  if draft.saysNothing members then .error .noDate
  else
    let wall ← draft.wallTime today members
    let zone ← draft.zone
    .ok ⟨wall, zone⟩

def reader (today : Date) : DateReader := fun text =>
  (read today text).mapError (Fault.toDateFault text)

end Authorship.DateText
