import Authorship.Number.Rounding

namespace Authorship.Number

/-- A binary floating-point number; the only zero with a minus sign is a value of its own. -/
inductive Binary64
  | nan
  | infinite (negative : Bool)
  | finite (value : Rat)
  | negativeZero
deriving DecidableEq

namespace Binary64

instance : Inhabited Binary64 := ⟨.finite 0⟩

/-- The rational a number stands for; none for an infinity and for what is no number. -/
def value? : Binary64 → Option Rat
  | .finite value => some value
  | .negativeZero => some 0
  | _ => none

def isNegative : Binary64 → Bool
  | .nan => false
  | .infinite negative => negative
  | .finite value => value < 0
  | .negativeZero => true

/-- The exponent of the leading bit of a positive rational. -/
def leadingBit (q : Rat) : Int :=
  let estimate := (Nat.log2 q.num.natAbs : Int) - (Nat.log2 q.den : Int)
  if q < power 2 estimate then estimate - 1 else estimate

/-- The exponent of the last bit that is kept of a positive rational. -/
def lastBit (q : Rat) : Int :=
  max (leadingBit q - 52) (-1074)

def zero (negative : Bool) : Binary64 :=
  if negative then .negativeZero else .finite 0

/-- The number nearest to a rational, a tie to the one with an even last bit; beyond the
largest number it is an infinity. A result of zero takes the given sign. -/
def nearest (negative : Bool) (q : Rat) : Binary64 :=
  if q == 0 then zero negative
  else
    let magnitude := if q < 0 then -q else q
    let unit := power 2 (lastBit magnitude)
    let rounded := (roundHalfEven (magnitude / unit) : Rat) * unit
    if power 2 1024 ≤ rounded then .infinite (decide (q < 0))
    else if rounded == 0 then zero (decide (q < 0))
    else .finite (if q < 0 then -rounded else rounded)

def ofRat (q : Rat) : Binary64 :=
  nearest false q

/-- The number nearest to an integer, unless it is too large. -/
def ofInt? (n : Int) : Option Binary64 :=
  match ofRat n with
  | .infinite _ => none
  | number => some number

def add (a b : Binary64) : Binary64 :=
  match a.value?, b.value? with
  | some x, some y => nearest (a.isNegative && b.isNegative) (x + y)
  | none, some _ => a
  | some _, none => b
  | none, none =>
    match a, b with
    | .infinite s, .infinite t => if s == t then a else .nan
    | _, _ => .nan

def mul (a b : Binary64) : Binary64 :=
  let negative := a.isNegative != b.isNegative
  match a, b with
  | .nan, _ | _, .nan => .nan
  | .infinite _, other | other, .infinite _ =>
    if other.value? == some 0 then .nan else .infinite negative
  | a, b => nearest negative (a.value?.getD 0 * b.value?.getD 0)

def div (a b : Binary64) : Binary64 :=
  let negative := a.isNegative != b.isNegative
  match a, b with
  | .nan, _ | _, .nan => .nan
  | .infinite _, .infinite _ => .nan
  | .infinite _, _ => .infinite negative
  | _, .infinite _ => zero negative
  | a, b =>
    if b.value? == some 0 then .nan
    else nearest negative (a.value?.getD 0 / b.value?.getD 1)

/-- The strict order of numbers; what is no number is comparable with nothing. -/
def lt : Binary64 → Binary64 → Bool
  | .nan, _ | _, .nan => false
  | .infinite s, .infinite t => s && !t
  | .infinite s, _ => s
  | _, .infinite t => !t
  | a, b => a.value?.getD 0 < b.value?.getD 0

def eq : Binary64 → Binary64 → Bool
  | .nan, _ | _, .nan => false
  | .infinite s, .infinite t => s == t
  | .infinite _, _ | _, .infinite _ => false
  | a, b => a.value?.getD 0 == b.value?.getD 0

def le (a b : Binary64) : Bool :=
  a.lt b || a.eq b

def isPositive (a : Binary64) : Bool :=
  (Binary64.finite 0).lt a

inductive IntegralFault
  | nan
  | infinity
deriving Repr, DecidableEq

def IntegralFault.message : IntegralFault → String
  | .nan => "cannot convert float NaN to integer"
  | .infinity => "cannot convert float infinity to integer"

/-- The integer that `round` makes of a finite number. -/
def toInteger (round : Rat → Int) : Binary64 → Except IntegralFault Int
  | .nan => .error .nan
  | .infinite _ => .error .infinity
  | .finite value => .ok (round value)
  | .negativeZero => .ok (round 0)

end Binary64

end Authorship.Number
