namespace Authorship.Text

structure CharRange where
  first : Nat
  last : Nat
deriving Repr, DecidableEq

def CharRange.holds (range : CharRange) (c : Char) : Bool :=
  range.first ≤ c.toNat && c.toNat ≤ range.last

def inRanges (ranges : List CharRange) (c : Char) : Bool :=
  ranges.any (·.holds c)

end Authorship.Text
