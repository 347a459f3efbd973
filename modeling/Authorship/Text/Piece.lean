namespace Authorship.Text

/-- Cuts at the first `count` occurrences of `mark`; the last piece keeps the later ones. -/
def cutAtFirst (mark : Char) : Nat → List Char → List (List Char)
  | 0, text => [text]
  | count + 1, text =>
    match text.dropWhile (· != mark) with
    | [] => [text]
    | _ :: rest => text.takeWhile (· != mark) :: cutAtFirst mark count rest

def cutAt? (mark : List Char) : List Char → Option (List Char × List Char)
  | [] => if mark.isEmpty then some ([], []) else none
  | c :: rest =>
    if mark.isPrefixOf (c :: rest) then some ([], (c :: rest).drop mark.length)
    else (cutAt? mark rest).map fun (before, after) => (c :: before, after)

def occursIn (part : List Char) : List Char → Bool
  | [] => part.isEmpty
  | c :: rest => part.isPrefixOf (c :: rest) || occursIn part rest

def contains (text part : String) : Bool :=
  occursIn part.toList text.toList

/-- The first `count` characters, or all but the last ones when `count` is negative. -/
def takeInt (count : Int) (text : List Char) : List Char :=
  if 0 ≤ count then text.take count.toNat
  else text.take (text.length - (-count).toNat)

def padEnd (width : Nat) (text : String) : String :=
  text ++ "".pushn ' ' (width - text.length)

def padStart (width : Nat) (text : String) : String :=
  "".pushn ' ' (width - text.length) ++ text

end Authorship.Text
