namespace Authorship.Text

/-- White space: the control separators, U+0085 and the space, line and paragraph separators. -/
def isBlank (c : Char) : Bool :=
  let n := c.toNat
  (9 ≤ n && n ≤ 13) || (28 ≤ n && n ≤ 32) || n == 0x85 || n == 0xA0 || n == 0x1680 ||
    (0x2000 ≤ n && n ≤ 0x200A) || n == 0x2028 || n == 0x2029 || n == 0x202F ||
    n == 0x205F || n == 0x3000

def dropEnd (drop : Char → Bool) (text : List Char) : List Char :=
  (text.reverse.dropWhile drop).reverse

def trimOf (drop : Char → Bool) (text : List Char) : List Char :=
  dropEnd drop (text.dropWhile drop)

def trim (text : List Char) : List Char :=
  trimOf isBlank text

/-- The pieces between white space; none of them is empty. -/
def words (text : List Char) : List (List Char) :=
  (text.splitOnP isBlank).filter (!·.isEmpty)

end Authorship.Text
