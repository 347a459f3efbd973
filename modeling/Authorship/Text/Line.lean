namespace Authorship.Text

/-- Writes every carriage return, with the line feed after it if there is one, as a line feed. -/
def unifyNewlines : List Char → List Char
  | [] => []
  | '\r' :: '\n' :: rest => '\n' :: unifyNewlines rest
  | '\r' :: rest => '\n' :: unifyNewlines rest
  | c :: rest => c :: unifyNewlines rest

/-- The pieces between the characters of a class; a piece after the last of them counts only
when it is not empty. -/
def linesBetween (isBreak : Char → Bool) (text : List Char) : List (List Char) :=
  let pieces := text.splitOnP isBreak
  if pieces.getLast? == some [] then pieces.dropLast else pieces

def linesOf (text : List Char) : List (List Char) :=
  linesBetween (· == '\n') text

def isVerticalBreak (c : Char) : Bool :=
  let n := c.toNat
  (10 ≤ n && n ≤ 13) || (28 ≤ n && n ≤ 30) || n == 0x85 || n == 0x2028 || n == 0x2029

def scriptLines (text : List Char) : List (List Char) :=
  linesBetween isVerticalBreak text

end Authorship.Text
