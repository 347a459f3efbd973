import Authorship.Number.Numeral

namespace Authorship.Number

/-- The most digits an integer may have in a text; in a text that is read, leading zeros count. -/
def digitLimit : Nat := 4300

inductive IntegerFault
  | notInteger
  | tooManyDigits (count : Nat)
deriving Repr, DecidableEq

def tooManyDigitsText (count : Nat) : String :=
  "Exceeds the limit (4300 digits) for integer string conversion: value has " ++ count.repr ++
    " digits; use sys.set_int_max_str_digits() to increase the limit"

def unwritableText : String :=
  "Exceeds the limit (4300 digits) for integer string conversion; " ++
    "use sys.set_int_max_str_digits() to increase the limit"

def isUnwritable (n : Int) : Bool :=
  Nat.pow 10 digitLimit ≤ n.natAbs

/-- The digits at the start of a text, with single underscores between them, and the rest.
`digitBefore` tells whether a digit stands before the text. -/
def digitRun? (digitBefore : Bool) : List Char → Option (List Char × List Char)
  | [] => some ([], [])
  | c :: rest =>
    if c.isDigit then (digitRun? true rest).map fun (digits, after) => (c :: digits, after)
    else if c == '_' then
      match rest with
      | [] => none
      | next :: _ => if digitBefore && next.isDigit then digitRun? false rest else none
    else some ([], c :: rest)

def readInteger (text : List Char) : Except IntegerFault Int :=
  let (negative, body) := takeSign (plainNumeral text)
  match digitRun? false body with
  | none => .error .notInteger
  | some (digits, after) =>
    if digitLimit < digits.length then .error (.tooManyDigits digits.length)
    else if digits.isEmpty || !after.isEmpty then .error .notInteger
    else .ok (if negative then -(ofDigits digits : Int) else ofDigits digits)

/-- Puts a comma before every third digit from the end; the digits are given from the end. -/
def groupReversed : List Char → List Char
  | a :: b :: c :: d :: rest => a :: b :: c :: ',' :: groupReversed (d :: rest)
  | digits => digits

def groupedNat (n : Nat) : String :=
  String.ofList (groupReversed (Nat.toDigits 10 n).reverse).reverse

def groupedInt (n : Int) : String :=
  if n < 0 then "-" ++ groupedNat n.natAbs else groupedNat n.natAbs

end Authorship.Number
