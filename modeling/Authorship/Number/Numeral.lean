import Authorship.Text.Blank
import Authorship.Text.Digit

namespace Authorship.Number

open Authorship.Text

/-- Writes spaces and digits of other scripts in ASCII, and all else beyond ASCII as `?`. -/
def plainChar (c : Char) : Char :=
  if c.toNat < 127 then c
  else if isBlank c then ' '
  else
    match digitValue? c with
    | some digit => Char.ofNat (48 + digit)
    | none => '?'

/-- The spaces that may stand around a number. -/
def isNumeralSpace (c : Char) : Bool :=
  (9 ≤ c.toNat && c.toNat ≤ 13) || c == ' '

/-- The characters of a number in ASCII, without the spaces around them. -/
def plainNumeral (text : List Char) : List Char :=
  trimOf isNumeralSpace (text.map plainChar)

/-- Takes the sign off; the flag says whether it was a minus. -/
def takeSign : List Char → Bool × List Char
  | '-' :: rest => (true, rest)
  | '+' :: rest => (false, rest)
  | text => (false, text)

def digitOf (c : Char) : Nat :=
  c.toNat - 48

def ofDigits (digits : List Char) : Nat :=
  digits.foldl (fun value c => value * 10 + digitOf c) 0

/-- Drops the underscores, each of which has to stand between two digits. `previous` is the
character before the text. -/
def dropUnderscores? (previous : Char) : List Char → Option (List Char)
  | [] => if previous == '_' then none else some []
  | c :: rest =>
    if c == '_' then
      if previous.isDigit then dropUnderscores? c rest else none
    else if previous == '_' && !c.isDigit then none
    else (dropUnderscores? c rest).map (c :: ·)

end Authorship.Number
