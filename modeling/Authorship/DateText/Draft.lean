import Authorship.DateText.Members
import Authorship.DateText.Vocabulary

namespace Authorship.DateText

open Authorship.Number

structure Draft where
  members : Members
  hour : Option Nat
  minute : Option Nat
  second : Option Nat
  microsecond : Option Nat
  weekday : Option Nat
  dayHalf : Option DayHalf
  zoneName : Option String
  /-- Seconds east of universal time. -/
  zoneOffset : Option Int
  /-- Whether the sign of the offset that comes next is meant the other way round. -/
  signReversed : Bool
deriving Repr, DecidableEq

namespace Draft

def empty : Draft :=
  ⟨.empty, none, none, none, none, none, none, none, none, false⟩

def size (draft : Draft) : Nat :=
  draft.members.size

def withMembers (draft : Draft) (change : Members → Except Fault Members) : Except Fault Draft :=
  (change draft.members).map fun members => { draft with members := members }

def hourIn (half : DayHalf) (hour : Nat) : Nat :=
  match half with
  | .pm => if hour < 12 then hour + 12 else hour
  | .am => if hour == 12 then 0 else hour

def withSeconds (draft : Draft) (chars : List Char) : Except Fault Draft :=
  let fraction := (chars.dropWhile (· != '.')).drop 1
  if chars.contains '.' then
    if fraction.contains '.' then .error .unknownFormat
    else do
      let second ← wholeNumber (chars.takeWhile (· != '.'))
      let micros ← wholeNumber ((fraction ++ List.replicate (6 - fraction.length) '0').take 6)
      .ok { draft with second := some second, microsecond := some micros }
  else do
    let second ← wholeNumber chars
    .ok { draft with second := some second, microsecond := some 0 }

def withMinutes (draft : Draft) (amount : Amount) : Except Fault Draft :=
  amount.sixtieths?.map fun seconds =>
    { draft with minute := some amount.whole, second := seconds }

def withUnit (draft : Draft) (token : String) (amount : Amount) :
    Option TimeUnit → Except Fault Draft
  | some .hour =>
    amount.sixtieths?.map fun minutes =>
      { draft with hour := some amount.whole, minute := minutes <|> draft.minute }
  | some .minute => draft.withMinutes amount
  | some .second => draft.withSeconds token.toList
  | none => .ok draft

/-- Hours and minutes, and perhaps seconds, without marks between them. -/
def withClockDigits (draft : Draft) (chars : List Char) : Except Fault Draft := do
  let hour ← wholeNumber (chars.take 2)
  let minute ← wholeNumber ((chars.drop 2).take 2)
  { draft with hour := some hour, minute := some minute }.withSeconds (chars.drop 4)

/-- A year, a month and a day of eight digits, perhaps with a time of four or six digits. -/
def withDateDigits (draft : Draft) (chars : List Char) : Except Fault Draft := do
  let members ← draft.members.addText (chars.take 4) (some .year)
  let members ← members.addText ((chars.drop 4).take 2) none
  let members ← members.addText ((chars.drop 6).take 2) none
  let draft := { draft with members := members }
  if chars.length ≤ 8 then .ok draft
  else do
    let hour ← wholeNumber ((chars.drop 8).take 2)
    let minute ← wholeNumber ((chars.drop 10).take 2)
    let draft := { draft with hour := some hour, minute := some minute }
    if chars.length ≤ 12 then .ok draft
    else do
      let second ← wholeNumber (chars.drop 12)
      .ok { draft with second := some second }

end Draft

/-- The tokens of a text; one that is asked for and missing makes the format unknown. -/
abbrev Tokens := Array String

namespace Tokens

def need (tokens : Tokens) (i : Nat) : Except Fault String :=
  match tokens[i]? with
  | some token => .ok token
  | none => .error .unknownFormat

def holds (tokens : Tokens) (i : Nat) (property : String → Bool) : Bool :=
  (tokens[i]?).any property

def unitAt? (tokens : Tokens) (i : Nat) : Option TimeUnit :=
  (tokens[i]?).bind timeUnit?

/-- Where the label of the number at a place stands, and the unit the number counts: the label
follows, perhaps after a space, or it precedes and belongs to the number before. -/
def unitOf? (tokens : Tokens) (i : Nat) : Option (Nat × Option TimeUnit) :=
  match tokens.unitAt? (i + 1) with
  | some unit => some (1, some unit)
  | none =>
    match (if tokens.holds (i + 1) (· == " ") then tokens.unitAt? (i + 2) else none) with
    | some unit => some (2, some unit)
    | none =>
      match (if 0 < i then tokens.unitAt? (i - 1) else none) with
      | some unit => some (0, unit.next?)
      | none =>
        let isLast := 1 < i && i + 1 == tokens.size && tokens.holds (i - 1) (· == " ")
        match (if isLast then tokens.unitAt? (i - 2) else none) with
        | some unit => some (0, unit.next?)
        | none => none

end Tokens

abbrev Advance := Except Fault (Draft × Nat)

namespace Draft

def readMarkedMembers (draft : Draft) (tokens : Tokens) (i : Nat) (token mark : String) :
    Advance := do
  let members ← draft.members.addText token.toList none
  if tokens.holds (i + 2) (!isSkipped ·) then
    let second ← tokens.need (i + 2)
    let members ←
      if isAllDigits second then members.addText second.toList none
      else
        match month? second with
        | some month => members.add month (some .month)
        | none => .error .unknownFormat
    if tokens.holds (i + 3) (· == mark) then
      let third ← tokens.need (i + 4)
      let members ←
        match month? third with
        | some month => members.add month (some .month)
        | none => members.addText third.toList none
      .ok ({ draft with members := members }, 4)
    else .ok ({ draft with members := members }, 2)
  else .ok ({ draft with members := members }, 1)

def readClock (draft : Draft) (tokens : Tokens) (i : Nat) (amount : Amount) : Advance := do
  let token ← tokens.need (i + 2)
  match Amount.ofToken? token with
  | none => .error .unknownFormat
  | some minutes =>
    let draft ← { draft with hour := some amount.whole }.withMinutes minutes
    if tokens.holds (i + 3) (· == ":") && (tokens[i + 4]?).isSome then
      let seconds ← tokens.need (i + 4)
      let draft ← draft.withSeconds seconds.toList
      .ok (draft, 4)
    else .ok (draft, 2)

def readBare (draft : Draft) (tokens : Tokens) (i : Nat) (amount : Amount) : Advance :=
  match tokens[i + 1]? with
  | none => (draft.withMembers (·.addAmount amount)).map (·, 1)
  | some next =>
    if isSkipped next then
      match (tokens[i + 2]?).bind dayHalf? with
      | some half => .ok ({ draft with hour := some (hourIn half amount.whole) }, 2)
      | none => (draft.withMembers (·.addAmount amount)).map (·, 1)
    else
      match dayHalf? next with
      | some half =>
        if amount.isBelow 24 then
          .ok ({ draft with hour := some (hourIn half amount.whole) }, 1)
        else if draft.members.mayBeDay amount then
          (draft.withMembers (·.addAmount amount)).map (·, 0)
        else .error .unknownFormat
      | none =>
        if draft.members.mayBeDay amount then
          (draft.withMembers (·.addAmount amount)).map (·, 0)
        else .error .unknownFormat

def readNumber (draft : Draft) (tokens : Tokens) (i : Nat) (token : String) : Advance :=
  match Amount.ofToken? token with
  | none => .error .unknownFormat
  | some amount =>
    let chars := token.toList
    let size := chars.length
    if draft.size == 3 && (size == 2 || size == 4) && draft.hour.isNone &&
        !tokens.holds (i + 1) (fun next => next == ":" || (timeUnit? next).isSome) then do
      let hour ← wholeNumber (chars.take 2)
      let draft := { draft with hour := some hour }
      if size == 4 then
        let minute ← wholeNumber (chars.drop 2)
        .ok ({ draft with minute := some minute }, 0)
      else .ok (draft, 0)
    else if size == 6 || (6 < size && chars.findIdx (· == '.') == 6) then
      if draft.size == 0 && !chars.contains '.' then do
        let members ← draft.members.addText (chars.take 2) none
        let members ← members.addText ((chars.drop 2).take 2) none
        let members ← members.addText (chars.drop 4) none
        .ok ({ draft with members := members }, 0)
      else (draft.withClockDigits chars).map (·, 0)
    else if size == 8 || size == 12 || size == 14 then
      (draft.withDateDigits chars).map (·, 0)
    else
      match tokens.unitOf? i with
      | some (distance, unit) => (draft.withUnit token amount unit).map (·, distance)
      | none =>
        if tokens.holds (i + 1) (· == ":") && (tokens[i + 2]?).isSome then
          draft.readClock tokens i amount
        else
          match tokens[i + 1]? with
          | some mark =>
            if mark == "-" || mark == "/" || mark == "." then
              draft.readMarkedMembers tokens i token mark
            else draft.readBare tokens i amount
          | none => draft.readBare tokens i amount

/-- The year that a year of two digits is: the one nearest to this year, from 50 years before it
to 49 years after it. In the first century it may lie before the beginning of the calendar. -/
def fullYear (thisYear : Nat) (hasCentury : Bool) (year : Int) : Int :=
  if year < 100 && !hasCentury then
    let candidate : Int := year + (thisYear / 100 * 100 : Nat)
    if thisYear + 50 ≤ candidate then candidate - 100
    else if candidate + 50 < thisYear then candidate + 100
    else candidate
  else year

def readMonth (draft : Draft) (thisYear : Nat) (tokens : Tokens) (i month : Nat) : Advance := do
  let members ← draft.members.add month (some .month)
  match tokens[i + 1]? with
  | none => .ok ({ draft with members := members }, 0)
  | some mark =>
    if mark == "-" || mark == "/" then
      let second ← tokens.need (i + 2)
      let members ← members.addText second.toList none
      if tokens.holds (i + 3) (· == mark) then
        let third ← tokens.need (i + 4)
        let members ← members.addText third.toList none
        .ok ({ draft with members := members }, 4)
      else .ok ({ draft with members := members }, 2)
    else
      match tokens[i + 4]? with
      | some year =>
        if mark == " " && tokens.holds (i + 3) (· == " ") && tokens.holds (i + 2) isOf then
          if isAllDigits year then
            let value ← wholeNumber year.toList
            let members ← members.addYear (fullYear thisYear false value)
            .ok ({ draft with members := members }, 4)
          else .ok ({ draft with members := members }, 4)
        else .ok ({ draft with members := members }, 0)
      | none => .ok ({ draft with members := members }, 0)

def withDayHalf (draft : Draft) (half : DayHalf) : Except Fault Draft :=
  match draft.hour with
  | none => .error .unknownFormat
  | some hour =>
    if 12 < hour then .error .unknownFormat
    else .ok { draft with hour := some (hourIn half hour), dayHalf := some half }

/-- Takes a zone name. A sign right after it is meant the other way round, and after a name of
universal time the offset alone is the zone. -/
def withZoneName (draft : Draft) (name : String) (signFollows : Bool) : Draft :=
  if signFollows then
    { draft with
      zoneName := if namesUniversal name then none else some name
      zoneOffset := none
      signReversed := true }
  else { draft with zoneName := some name, zoneOffset := if name == "z" then some 0 else none }

def mayTakeZone (draft : Draft) (token : String) : Bool :=
  draft.hour.isSome && draft.zoneName.isNone && draft.zoneOffset.isNone && mayNameZone token

def readOffset (draft : Draft) (tokens : Tokens) (i : Nat) (isPlus : Bool) : Advance := do
  let token ← tokens.need (i + 1)
  let chars := token.toList
  let (hours, minutes, colon) ←
    if chars.length == 4 then do
      let hours ← wholeNumber (chars.take 2)
      let minutes ← wholeNumber (chars.drop 2)
      pure (hours, minutes, 0)
    else if tokens.holds (i + 2) (· == ":") then do
      let hours ← wholeNumber chars
      let part ← tokens.need (i + 3)
      let minutes ← wholeNumber part.toList
      pure (hours, minutes, 2)
    else if chars.length ≤ 2 then do
      let hours ← wholeNumber chars
      pure (hours, 0, 0)
    else .error .unknownFormat
  let seconds : Int := (hours * 3600 + minutes * 60 : Nat)
  let offset := if isPlus != draft.signReversed then seconds else -seconds
  let draft := { draft with zoneOffset := some offset, signReversed := false }
  let j := i + colon
  match tokens[j + 4]? with
  | some name =>
    if tokens.holds (j + 2) isSkipped && tokens.holds (j + 3) (· == "(") &&
        tokens.holds (j + 5) (· == ")") && 3 ≤ name.length && draft.zoneName.isNone &&
        mayNameZone name then
      .ok ({ draft with zoneName := some name }, colon + 5)
    else .ok (draft, colon + 1)
  | none => .ok (draft, colon + 1)

def readToken (draft : Draft) (thisYear : Nat) (tokens : Tokens) (i : Nat) (token : String) :
    Advance :=
  if isNumeric token then draft.readNumber tokens i token
  else
    match weekday? token with
    | some day => .ok ({ draft with weekday := some day }, 0)
    | none =>
      match month? token with
      | some month => draft.readMonth thisYear tokens i month
      | none =>
        match dayHalf? token with
        | some half => (draft.withDayHalf half).map (·, 0)
        | none =>
          if draft.mayTakeZone token then
            let signFollows := tokens.holds (i + 1) (fun next => next == "+" || next == "-")
            .ok (draft.withZoneName token signFollows, 0)
          else if draft.hour.isSome && (token == "+" || token == "-") then
            draft.readOffset tokens i (token == "+")
          else if isSkipped token then .ok (draft, 0)
          else .error .unknownFormat

def readFrom (draft : Draft) (thisYear : Nat) (tokens : Tokens) (i : Nat) : Except Fault Draft :=
  if h : i < tokens.size then
    match draft.readToken thisYear tokens i tokens[i] with
    | .error fault => .error fault
    | .ok (draft, more) => draft.readFrom thisYear tokens (i + more + 1)
  else .ok draft
termination_by tokens.size - i
decreasing_by omega

end Draft

end Authorship.DateText
