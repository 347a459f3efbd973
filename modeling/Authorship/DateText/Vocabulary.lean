namespace Authorship.DateText

def lowered (token : String) : String :=
  String.ofList (token.toList.map Char.toLower)

def weekday? (token : String) : Option Nat :=
  match lowered token with
  | "mon" | "monday" => some 0
  | "tue" | "tuesday" => some 1
  | "wed" | "wednesday" => some 2
  | "thu" | "thursday" => some 3
  | "fri" | "friday" => some 4
  | "sat" | "saturday" => some 5
  | "sun" | "sunday" => some 6
  | _ => none

def month? (token : String) : Option Nat :=
  match lowered token with
  | "jan" | "january" => some 1
  | "feb" | "february" => some 2
  | "mar" | "march" => some 3
  | "apr" | "april" => some 4
  | "may" => some 5
  | "jun" | "june" => some 6
  | "jul" | "july" => some 7
  | "aug" | "august" => some 8
  | "sep" | "sept" | "september" => some 9
  | "oct" | "october" => some 10
  | "nov" | "november" => some 11
  | "dec" | "december" => some 12
  | _ => none

inductive TimeUnit
  | hour
  | minute
  | second
deriving Repr, DecidableEq

def timeUnit? (token : String) : Option TimeUnit :=
  match lowered token with
  | "h" | "hour" | "hours" => some .hour
  | "m" | "minute" | "minutes" => some .minute
  | "s" | "second" | "seconds" => some .second
  | _ => none

def TimeUnit.next? : TimeUnit → Option TimeUnit
  | .hour => some .minute
  | .minute => some .second
  | .second => none

inductive DayHalf
  | am
  | pm
deriving Repr, DecidableEq

def dayHalf? (token : String) : Option DayHalf :=
  match lowered token with
  | "am" | "a" => some .am
  | "pm" | "p" => some .pm
  | _ => none

def isSkipped (token : String) : Bool :=
  [" ", ".", ",", ";", "-", "/", "'", "at", "on", "and", "ad", "m", "t", "of",
    "st", "nd", "rd", "th"].contains (lowered token)

def isOf (token : String) : Bool :=
  lowered token == "of"

def namesUniversal (token : String) : Bool :=
  ["utc", "gmt", "z"].contains (lowered token)

def mayNameZone (token : String) : Bool :=
  token.length ≤ 5 && (token.toList.all (fun c => 'A' ≤ c && c ≤ 'Z') || token == "z")

end Authorship.DateText
