namespace Authorship.Number

/-- The quotient of two naturals rounded to the nearest integer, a half to the even one. -/
def divideHalfEven (numerator denominator : Nat) : Nat :=
  let quotient := numerator / denominator
  let excess := 2 * (numerator % denominator)
  if excess < denominator then quotient
  else if denominator < excess then quotient + 1
  else if quotient % 2 == 0 then quotient else quotient + 1

/-- The nearest integer, a half to the even one. -/
def roundHalfEven (q : Rat) : Int :=
  let magnitude := divideHalfEven q.num.natAbs q.den
  if q.num < 0 then -(magnitude : Int) else magnitude

/-- The integer part, towards zero. -/
def truncate (q : Rat) : Int :=
  Int.tdiv q.num q.den

def power (base : Nat) (exponent : Int) : Rat :=
  if 0 ≤ exponent then (Nat.pow base exponent.toNat : Rat)
  else 1 / (Nat.pow base (-exponent).toNat : Rat)

end Authorship.Number
