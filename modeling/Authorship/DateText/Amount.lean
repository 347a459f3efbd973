import Authorship.DateText.Fault
import Authorship.DateText.Token
import Authorship.Number.Reading
import Authorship.Number.Shortest
import Authorship.Number.Integer

namespace Authorship.DateText

open Authorship.Text Authorship.Number

/-- A decimal: `digits` divided by ten to the power `places`. -/
structure Amount where
  digits : Nat
  places : Nat
deriving Repr, DecidableEq

namespace Amount

def ofToken? (token : String) : Option Amount :=
  let plain := token.toList.map plainChar
  let whole := plain.takeWhile (· != '.')
  let fraction := (plain.dropWhile (· != '.')).drop 1
  if (whole ++ fraction).all Char.isDigit && !(whole ++ fraction).isEmpty then
    some ⟨ofDigits (whole ++ fraction), fraction.length⟩
  else none

def whole (amount : Amount) : Nat :=
  amount.digits / Nat.pow 10 amount.places

def exceeds (amount : Amount) (bound : Nat) : Bool :=
  bound * Nat.pow 10 amount.places < amount.digits

def isBelow (amount : Amount) (bound : Nat) : Bool :=
  amount.digits < bound * Nat.pow 10 amount.places

def keep28 (q : Rat) : Rat :=
  if q ≤ 0 then q
  else
    let unit := power 10 (leadingDigit q - 27)
    (roundHalfEven (q / unit) : Rat) * unit

def fraction (amount : Amount) : Except Fault Rat :=
  let unit := Nat.pow 10 amount.places
  if 28 < digitCount amount.whole then .error .remainderImpossible
  else .ok (keep28 ((amount.digits % unit : Nat) / (unit : Nat) : Rat))

def sixtieths? (amount : Amount) : Except Fault (Option Nat) :=
  amount.fraction.map fun part =>
    if part == 0 then none else some (truncate (keep28 (60 * part))).toNat

end Amount

def isNumeric (token : String) : Bool :=
  (readBinary64? token.toList).isSome

def isAllDigits (token : String) : Bool :=
  !token.isEmpty && token.toList.all isDigitSign

def wholeNumber (chars : List Char) : Except Fault Nat :=
  match readInteger chars with
  | .ok n => if n < 0 then .error .unknownFormat else .ok n.toNat
  | .error _ => .error .unknownFormat

end Authorship.DateText
