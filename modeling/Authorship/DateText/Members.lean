import Authorship.DateText.Amount
import Authorship.Calendar.Date

namespace Authorship.DateText

open Authorship.Calendar

inductive Label
  | year
  | month
deriving Repr, DecidableEq

structure Members where
  values : List Int
  monthAt : Option Nat
  yearAt : Option Nat
  /-- Whether a year was written with its century. -/
  hasCentury : Bool
deriving Repr, DecidableEq

def gregorianYear (year : Int) : Nat :=
  if 0 < year then year.toNat else (2000 + year % 400).toNat

namespace Members

def empty : Members := ⟨[], none, none, false⟩

def size (members : Members) : Nat :=
  members.values.length

def add (members : Members) (value : Int) (label : Option Label) : Except Fault Members :=
  let extended := { members with values := members.values ++ [value] }
  match label with
  | none => .ok extended
  | some .month =>
    if members.monthAt.isSome then .error .unknownFormat
    else .ok { extended with monthAt := some members.size }
  | some .year =>
    if members.yearAt.isSome then .error .unknownFormat
    else .ok { extended with yearAt := some members.size }

/-- Adds a member as it was written; three digits and more are a year. -/
def addText (members : Members) (chars : List Char) (label : Option Label) :
    Except Fault Members :=
  if 2 < chars.length && isAllDigits (String.ofList chars) then
    if label == some .month then .error .unknownFormat
    else do
      let value ← wholeNumber chars
      { members with hasCentury := true }.add value (some .year)
  else do
    let value ← wholeNumber chars
    members.add value label

def addYear (members : Members) (year : Int) : Except Fault Members :=
  { members with hasCentury := members.hasCentury || decide (100 ≤ year) }.add year (some .year)

def addAmount (members : Members) (amount : Amount) : Except Fault Members :=
  if amount.exceeds 100 then { members with hasCentury := true }.add amount.whole (some .year)
  else members.add amount.whole none

/-- Whether a number may be the day of the month, if one is known; a year that is not known is
taken to be a leap year. -/
def mayBeDay (members : Members) (amount : Amount) : Bool :=
  let longest :=
    match members.monthAt.bind (members.values[·]?) with
    | none => 31
    | some month =>
      daysInMonth (gregorianYear ((members.yearAt.bind (members.values[·]?)).getD 2000)) month.toNat
  !amount.isBelow 1 && !amount.exceeds longest

structure Resolved where
  year : Option Int
  month : Option Nat
  day : Option Nat
deriving Repr, DecidableEq

def Resolved.ofValues (year month day : Option Int) : Resolved :=
  ⟨year, month.map Int.toNat, day.map Int.toNat⟩

def pick (members : Members) (year month day : Option Nat) : Resolved :=
  .ofValues (year.bind (members.values[·]?)) (month.bind (members.values[·]?))
    (day.bind (members.values[·]?))

def missing (a b : Nat) : Nat :=
  3 - a - b

def resolveFew (members : Members) : Resolved :=
  match members.values, members.monthAt with
  | [month], some _ => .ofValues none (some month) none
  | [value], none =>
    if 31 < value then .ofValues (some value) none none else .ofValues none none (some value)
  | [a, b], some at_ =>
    let (month, other) := if at_ == 0 then (a, b) else (b, a)
    if 31 < other then .ofValues (some other) (some month) none
    else .ofValues none (some month) (some other)
  | [a, b], none =>
    if 31 < a then .ofValues (some a) (some b) none
    else if 31 < b then .ofValues (some b) (some a) none
    else .ofValues none (some a) (some b)
  | _, _ => ⟨none, none, none⟩

def resolveThree (members : Members) (a b c : Int) : Resolved :=
  let dated (year month day : Int) := Resolved.ofValues (some year) (some month) (some day)
  match members.monthAt with
  | some 0 => if 31 < b then dated b a c else dated c a b
  | some 1 => if 31 < a then dated a b c else dated c b a
  | some _ => if 31 < b then dated b c a else dated a c b
  | none =>
    if 31 < a || members.yearAt == some 0 then dated a b c
    else if 12 < a then dated c b a
    else dated c a b

def resolve (members : Members) : Except Fault Resolved :=
  match members.values, members.yearAt, members.monthAt with
  | [_], some y, none => .ok (members.pick (some y) none none)
  | [_], none, some m => .ok (members.pick none (some m) none)
  | [_, _], some y, some m => .ok (members.pick (some y) (some m) none)
  | [_, _, _], some y, some m => .ok (members.pick (some y) (some m) (some (missing y m)))
  | [a, b, c], _, _ => .ok (members.resolveThree a b c)
  | _ :: _ :: _ :: _ :: _, _, _ => .error .unknownFormat
  | _, _, _ => .ok members.resolveFew

end Members

end Authorship.DateText
