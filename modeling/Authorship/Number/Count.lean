namespace Authorship.Number

inductive CountFault
  | notIndex
  | noRoom
deriving Repr, DecidableEq

def CountFault.message : CountFault → String
  | .notIndex => "cannot fit 'int' into an index-sized integer"
  | .noRoom => ""

/-- Whether an integer fits the 64 bits of an index. -/
def isIndex (n : Int) : Bool :=
  -9223372036854775808 ≤ n && n ≤ 9223372036854775807

/-- The most things that are ever held at once. -/
def roomLimit : Nat := 4294967296

/-- How many things an integer asks for; a negative one asks for none. -/
def count (n : Int) : Except CountFault Nat :=
  if !isIndex n then .error .notIndex
  else if roomLimit < n.toNat then .error .noRoom
  else .ok n.toNat

theorem count_eq_ok {n : Int} (lower : -9223372036854775808 ≤ n) (upper : n ≤ roomLimit) :
    count n = .ok n.toNat := by
  have fits : isIndex n = true := by
    simp only [isIndex, roomLimit, Bool.and_eq_true, decide_eq_true_eq] at *
    omega
  simp only [count, fits]
  rw [if_neg (by simp), if_neg (by omega)]

end Authorship.Number
