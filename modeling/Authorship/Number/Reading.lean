import Authorship.Number.Numeral
import Authorship.Number.Binary64

namespace Authorship.Number

structure DecimalNumeral where
  digits : List Char
  fractionSize : Nat
  exponent : Int
deriving Repr, DecidableEq

def readExponent? : List Char → Option Int
  | [] => some 0
  | c :: rest =>
    if c == 'e' || c == 'E' then
      let (negative, digits) := takeSign rest
      if digits.isEmpty || !digits.all Char.isDigit then none
      else some (if negative then -(ofDigits digits : Int) else ofDigits digits)
    else none

def readDecimal? (text : List Char) : Option DecimalNumeral :=
  let whole := text.takeWhile Char.isDigit
  let after := text.dropWhile Char.isDigit
  let (fraction, tail) :=
    match after with
    | '.' :: rest => (rest.takeWhile Char.isDigit, rest.dropWhile Char.isDigit)
    | rest => ([], rest)
  if whole.isEmpty && fraction.isEmpty then none
  else (readExponent? tail).map fun exponent => ⟨whole ++ fraction, fraction.length, exponent⟩

/-- The number nearest to a decimal. Far outside the range no power of ten is computed. -/
def DecimalNumeral.toBinary64 (negative : Bool) (numeral : DecimalNumeral) : Binary64 :=
  let digits := numeral.digits.dropWhile (· == '0')
  let scale := numeral.exponent - numeral.fractionSize
  let size := (digits.length : Int) + scale
  if digits.isEmpty then .zero negative
  else if 400 < size then .infinite negative
  else if size < -400 then .zero negative
  else
    let magnitude := (ofDigits digits : Rat) * power 10 scale
    .nearest negative (if negative then -magnitude else magnitude)

def readBinary64? (text : List Char) : Option Binary64 :=
  (dropUnderscores? ' ' (plainNumeral text)).bind fun plain =>
    let (negative, body) := takeSign plain
    let word := String.ofList (body.map Char.toLower)
    if word == "inf" || word == "infinity" then some (.infinite negative)
    else if word == "nan" then some .nan
    else (readDecimal? body).map (·.toBinary64 negative)

end Authorship.Number
