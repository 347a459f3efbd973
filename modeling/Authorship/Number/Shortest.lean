import Authorship.Number.Binary64

namespace Authorship.Number

def digitCount (n : Nat) : Nat :=
  (Nat.toDigits 10 n).length

def leadingDigit (q : Rat) : Int :=
  let estimate := (digitCount q.num.natAbs : Int) - digitCount q.den
  if q < power 10 estimate then estimate - 1 else estimate

/-- Significant digits as one natural number, and the exponent of ten of the first of them. -/
structure Significant where
  digits : Nat
  exponent : Int
deriving Repr, DecidableEq

/-- The multiple of `unit` nearest to `q` among its two neighbours that read back as `q`. -/
def readsBack? (q unit : Rat) : Option Nat :=
  let below := (q / unit).floor.toNat
  let hit (n : Nat) : Bool := Binary64.ofRat ((n : Rat) * unit) == .finite q
  let toBelow := q - (below : Rat) * unit
  let toAbove := ((below + 1 : Nat) : Rat) * unit - q
  match hit below, hit (below + 1) with
  | true, true =>
    if toBelow < toAbove then some below
    else if toAbove < toBelow then some (below + 1)
    else if below % 2 == 0 then some below else some (below + 1)
  | true, false => some below
  | false, true => some (below + 1)
  | false, false => none

/-- Digits whose first one has the given exponent, unless rounding has added a digit. -/
def Significant.ofDigits (digits size : Nat) (exponent : Int) : Significant :=
  ⟨digits, if size < digitCount digits then exponent + 1 else exponent⟩

/-- The fewest digits, at most seventeen, that read back as the positive number `q`. -/
def shortestDigits (q : Rat) : Significant :=
  let exponent := leadingDigit q
  let attempt (size : Nat) : Option Significant :=
    (readsBack? q (power 10 (exponent - (size - 1 : Nat)))).map (.ofDigits · size exponent)
  ((List.range' 1 17).findSome? attempt).getD ⟨0, 0⟩

def roundedDigits (size : Nat) (q : Rat) : Significant :=
  let exponent := leadingDigit q
  let digits := (roundHalfEven (q / power 10 (exponent - (size - 1 : Nat)))).toNat
  .ofDigits digits size exponent

/-- How a decimal is laid out: the exponents of the first digit that are written positionally,
and whether a whole number keeps a zero after the point. -/
structure DecimalLayout where
  lowest : Int
  highest : Int
  keepsPoint : Bool

/-- Numbers from 0.0001 to below 10^16 are positional, and whole ones end in `.0`. -/
def exactLayout : DecimalLayout := ⟨-4, 15, true⟩

/-- Six digits; numbers from 0.0001 to below 10^6 are positional. -/
def briefLayout : DecimalLayout := ⟨-4, 5, false⟩

def zeros (count : Nat) : List Char :=
  List.replicate count '0'

def exponentText (exponent : Int) : List Char :=
  let digits := Nat.toDigits 10 exponent.natAbs
  (if exponent < 0 then '-' else '+') :: (zeros (2 - digits.length) ++ digits)

/-- The text of significant digits; trailing zeros are dropped. -/
def DecimalLayout.text (layout : DecimalLayout) (number : Significant) : List Char :=
  let digits := ((Nat.toDigits 10 number.digits).reverse.dropWhile (· == '0')).reverse
  let exponent := number.exponent
  if exponent < layout.lowest || layout.highest < exponent then
    let fraction := digits.drop 1
    digits.take 1 ++ (if fraction.isEmpty then [] else '.' :: fraction) ++
      'e' :: exponentText exponent
  else if exponent < 0 then '0' :: '.' :: zeros (-exponent - 1).toNat ++ digits
  else
    let size := exponent.toNat + 1
    let fraction := digits.drop size
    digits.take size ++ zeros (size - digits.length) ++
      if fraction.isEmpty then (if layout.keepsPoint then ['.', '0'] else [])
      else '.' :: fraction

/-- The text of a number whose positive rationals have the given digits. -/
def Binary64.textWith (layout : DecimalLayout) (digits : Rat → Significant) : Binary64 → String
  | .nan => "nan"
  | .infinite negative => if negative then "-inf" else "inf"
  | .negativeZero => if layout.keepsPoint then "-0.0" else "-0"
  | .finite value =>
    if value == 0 then (if layout.keepsPoint then "0.0" else "0")
    else if value < 0 then "-" ++ String.ofList (layout.text (digits (-value)))
    else String.ofList (layout.text (digits value))

def Binary64.text (number : Binary64) : String :=
  number.textWith exactLayout shortestDigits

def Binary64.briefText (number : Binary64) : String :=
  number.textWith briefLayout (roundedDigits 6)

end Authorship.Number
